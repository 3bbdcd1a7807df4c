import ChartDialogue.Matching.Program

/-!
The matcher decides whether an input matches a pattern and which words the stars stand for.
Patterns with wildcards are compiled to programs, which are kept until the cache is cleared.
A program that would be too large is never run, but it takes its place in the cache. What a matcher
answers does not depend on what it has cached; how many programs it has cached depends on the
requests since the cache was last cleared.
-/
namespace ChartDialogue.Matching

open Text

/-- Whether the words of the pattern occur in the input one after another, whatever their case. -/
def containsWords (input pattern : Text) : Bool :=
  occursIn ((words pattern).map lowercase) ((words input).map lowercase)

structure Matcher where
  programs : List (Key × Option Program)

namespace Matcher

def empty : Matcher := ⟨[]⟩

/-- The number of cached programs, those beyond the size limit included. -/
def cachedCount (m : Matcher) : Nat := m.programs.length

/-- The program of a key, compiled only if it is not cached. -/
def program (m : Matcher) (key : Key) : Option Program × Matcher :=
  match m.programs.lookup key with
  | some cached => (cached, m)
  | none => (Program.compile? key, ⟨(key, Program.compile? key) :: m.programs⟩)

def test (m : Matcher) (folding : Folding) (input pattern : Text) : Bool × Matcher :=
  let input := folding.apply (normalize input)
  let pattern := folding.apply (normalize pattern)
  if pattern.isEmpty then (input.isEmpty, m)
  else if hasWildcard pattern then
    let (program, m) := m.program ⟨pattern, .test folding⟩
    (program.any fun p => (p.run input).isSome, m)
  else (containsWords input pattern, m)

/-- The texts of the input that the stars of the pattern stand for; none when it does not match. -/
def capture (m : Matcher) (input pattern : Text) : Captures × Matcher :=
  let input := normalize input
  let pattern := normalize pattern
  let (program, m) := m.program ⟨pattern, .capture⟩
  let found := program.bind fun p => (p.run input).map (captured p.tokens)
  (nameCaptures (found.getD []), m)

inductive Request where
  | test (folding : Folding) (input pattern : Text)
  | capture (input pattern : Text)
  | clear

inductive Answer where
  | hit (b : Bool)
  | captures (cs : Captures)
  | done
  deriving DecidableEq

def serve (m : Matcher) : Request → Answer × Matcher
  | .test folding input pattern =>
    (.hit (m.test folding input pattern).1, (m.test folding input pattern).2)
  | .capture input pattern =>
    (.captures (m.capture input pattern).1, (m.capture input pattern).2)
  | .clear => (.done, empty)

end Matcher
end ChartDialogue.Matching
