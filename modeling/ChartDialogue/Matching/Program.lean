import ChartDialogue.Matching.Layout
import ChartDialogue.Matching.Pattern
import ChartDialogue.Text.CaseFold
import ChartDialogue.Text.Lowercase

/-!
Programs are compiled from patterns with wildcards, to test whether an input matches or to
capture what the stars stand for. A program that would be too large is never run.

A program keeps the tokens of its pattern. The regular expression that they make has no text here,
with literals escaped in it, to be parsed again: `Expr.ofTokens` is the parsed expression, and a run
is proved to find what a backtracking search for it finds.
-/
namespace ChartDialogue.Matching

open Text

/-- How letter case is treated in a match. -/
inductive Folding where
  /-- Lower-case input and pattern and compare the words exactly. -/
  | insensitive
  /-- Keep the letters and compare the words up to simple case folding. -/
  | preserve
  deriving DecidableEq

namespace Folding

def apply : Folding → Text → Text
  | insensitive, s => lowercase s
  | preserve, s => s

/-- Whether a literal of a program and a word of the input are the same. -/
def same : Folding → Text → Text → Bool
  | insensitive, a, b => a == b
  | preserve, a, b => caseFold a == caseFold b

end Folding

inductive Use where
  | test (folding : Folding)
  | capture
  deriving DecidableEq

namespace Use

def folding : Use → Folding
  | test folding => folding
  | capture => .preserve

end Use

namespace Layout

/-- A character of a literal. Where case does not count, it stands for all that fold alike. -/
def addChar (l : Layout) : Folding → Char → Layout
  | .insensitive, c => l.addStates c.utf8Size
  | .preserve, c =>
    match foldMates c with
    | [_] => l.addStates c.utf8Size
    | mates =>
      let cls := CharClass.ofAscending mates
      if cls.isAscii then l.addAsciiClass cls else l.addClass cls.sequences

/-- A token, from its end to its beginning. -/
def addToken (l : Layout) : Use → Token → Layout
  | use, .literal word => word.reverse.foldl (fun l c => l.addChar use.folding c) l
  | .test _, _ => l.addWords
  | .capture, _ => l.addLine

/-- Tokens with blanks between them, the last one first. -/
def addTokens (l : Layout) (use : Use) : List Token → Layout
  | [] => l
  | [token] => l.addToken use token
  | token :: rest => ((l.addToken use token).addBlanks).addTokens use rest

/-- The layout of a program, which has two states before its tokens and two behind them. -/
def ofTokens (use : Use) (tokens : List Token) : Layout :=
  (addTokens ⟨2, 0⟩ use tokens.reverse).addStates 2

end Layout

structure Key where
  pattern : Text
  use : Use
  deriving DecidableEq

structure Program where
  use : Use
  tokens : List Token
  deriving DecidableEq

namespace Program

def sizeLimit : Nat := 10 * 1024 * 1024

def size (p : Program) : Nat :=
  (Layout.ofTokens p.use p.tokens).bytes

/-- The program of a key, unless it exceeds the size limit. -/
def compile? (key : Key) : Option Program :=
  let program : Program := ⟨key.use, Matching.tokens key.pattern⟩
  if program.size ≤ sizeLimit then some program else none

def run (p : Program) (input : Text) : Option Cut :=
  greedyCut? p.use.folding.same p.tokens (words input)

end Program

end ChartDialogue.Matching
