import ChartDialogue.Text.Lowercase

/-!
How alike two texts are, from 0 to 100, and the first of the most similar candidates.
Case and spacing do not count. Most scores rest on the edit distance of the texts, computed row by
row: the row of a beginning of the first text holds its distances to all beginnings of the second.
-/
namespace ChartDialogue.Matching

open Text

/-- The entries of the next row after `left`, read off the row `above` from the entry
diagonally before. -/
def rowFrom (c : Char) : (left : Nat) → Text → (above : List Nat) → List Nat
  | left, d :: t, diagonal :: above@(up :: _) =>
    let here := min (min (diagonal + if c = d then 0 else 1) (up + 1)) (left + 1)
    here :: rowFrom c here t above
  | _, _, _ => []

def nextRow (t : Text) (row : List Nat) (c : Char) : List Nat :=
  match row with
  | [] => []
  | n :: _ => (n + 1) :: rowFrom c (n + 1) t row

/-- The number of characters to insert, delete or replace that leads from `s` to `t`. -/
def editDistance (s t : Text) : Nat :=
  ((s.foldl (nextRow t) (List.range (t.length + 1))).getLast?).getD 0

example : editDistance "kitten".toList "sitting".toList = 3 := by decide

def exactScore : Nat := 100

def containedScore : Nat := 80

/-- The percentages whose half lies just below its decimal value in binary floating point
of 53 digits. All other halves are exact or lie above. -/
def lowHalves : List Nat :=
  [6, 7, 8, 9, 10, 19, 20, 21, 22, 31, 32, 44, 45, 53, 54, 55, 56, 57]

/-- `part / whole` in percent, rounded to the nearest integer. A half goes up, a low half
goes down. Up to a whole of `2 ^ 43` this is what binary floating point of 53 digits gives for what
is left of the whole; beyond that the two may differ. -/
def percentage (part whole : Nat) : Nat :=
  let below := 100 * part / whole
  let twice := 2 * (100 * part % whole)
  if twice < whole ∨ (twice = whole ∧ below ∈ lowHalves) then below else below + 1

def distanceScore (a b : Text) : Nat :=
  let longest := max a.length b.length
  percentage (longest - editDistance a b) longest

def similarity (a b : Text) : Nat :=
  let a := lowercase (normalize a)
  let b := lowercase (normalize b)
  if a = b then exactScore
  else if a.isEmpty || b.isEmpty then 0
  else if occursIn b a || occursIn a b then containedScore
  else distanceScore a b

/-- The index and the value of the first greatest number. -/
def firstMax? : List Nat → Option (Nat × Nat)
  | [] => none
  | n :: rest =>
    match firstMax? rest with
    | none => some (0, n)
    | some (i, m) => if n < m then some (i + 1, m) else some (0, n)

/-- The index of the first candidate of greatest similarity, if that reaches the threshold. -/
def closest? (input : Text) (candidates : List Text) (threshold : Nat) : Option Nat :=
  match firstMax? (candidates.map (similarity input)) with
  | some (i, score) => if threshold ≤ score then some i else none
  | none => none

end ChartDialogue.Matching
