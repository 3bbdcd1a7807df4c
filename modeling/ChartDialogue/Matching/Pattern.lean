import ChartDialogue.Text.Basic

/-!
Patterns of user input. A pattern is a list of words; the words `*` and `_` stand for one or
more words of the input, and only `*` remembers which.

The words of an input are cut into one segment for each token of a pattern. A literal takes
the one word that is the same, a wildcard takes at least one word. Among all cuts the greedy
one gives every wildcard, from left to right, as many words as the rest allows. The greedy cuts of
all ends of the input are found together, from the last token to the first.

What the stars captured has the names `star1`, `star2`, … in order. The first one is also called
`star`.
-/
namespace ChartDialogue.Matching

open Text

/-- One word of a pattern. -/
inductive Token where
  | literal (word : Text)
  /-- One or more words, captured. -/
  | star
  /-- One or more words, not captured. -/
  | gap
  deriving DecidableEq

namespace Token

def ofWord (word : Text) : Token :=
  if word = ['*'] then star else if word = ['_'] then gap else literal word

def isWildcard : Token → Bool
  | literal _ => false
  | star | gap => true

end Token

def tokens (pattern : Text) : List Token :=
  (words pattern).map Token.ofWord

def hasWildcard (pattern : Text) : Bool :=
  (tokens pattern).any Token.isWildcard

/-- The segments of the words, one for each token. -/
abbrev Cut := List (List Text)

/-- The greedy cut of `word` and the words after it. `beyond` is the cut of the words after it
by the later tokens, `longer` their cut by this token and the later ones. -/
def cutHere (same : Text → Text → Bool) (token : Token) (word : Text)
    (beyond longer : Option Cut) : Option Cut :=
  match token with
  | .literal l => if same l word then beyond.map ([word] :: ·) else none
  | .star | .gap =>
    match longer with
    | some (segment :: rest) => some ((word :: segment) :: rest)
    | _ => beyond.map ([word] :: ·)

/-- The greedy cuts of all ends of the words, the whole list first, by `token` and the later
tokens, from the cuts of the same ends by the later tokens alone. -/
def cutsFrom (same : Text → Text → Bool) (token : Token) :
    List Text → List (Option Cut) → List (Option Cut)
  | [], _ => [none]
  | word :: words, later =>
    let longer := cutsFrom same token words later.tail
    cutHere same token word (later.tail.headD none) (longer.headD none) :: longer

def cutsByNone : List Text → List (Option Cut)
  | [] => [some []]
  | _ :: words => none :: cutsByNone words

/-- The greedy cut of the words by the tokens, if there is any cut. -/
def greedyCut? (same : Text → Text → Bool) (tokens : List Token) (words : List Text) :
    Option Cut :=
  (tokens.foldr (fun token later => cutsFrom same token words later) (cutsByNone words)).headD none

def captured : List Token → Cut → List Text
  | .star :: tokens, segment :: cut => Text.join [' '] segment :: captured tokens cut
  | _ :: tokens, _ :: cut => captured tokens cut
  | _, _ => []

abbrev Captures := List (Text × Text)

def starKey : Text := "star".toList

def starName (n : Nat) : Text :=
  starKey ++ Nat.toDigits 10 n

/-- The names `star1`, `star2`, … for the given texts, and `star` for the first of them. -/
def nameCaptures : List Text → Captures
  | [] => []
  | first :: rest =>
    (starKey, first) :: (first :: rest).mapIdx fun i s => (starName (i + 1), s)

end ChartDialogue.Matching
