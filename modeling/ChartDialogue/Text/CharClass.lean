import ChartDialogue.Text.Basic
import ChartDialogue.Text.CharTable

/-!
Classes of characters as ranges of code points, and the bytes that their members are written
with. The UTF-8 forms of a range are cut into sequences of byte ranges, so that a character
belongs to it just when its bytes lie, one by one, in the ranges of some sequence.
-/
namespace ChartDialogue.Text

/-- Ranges of code points, ascending and apart. -/
abbrev CharClass := List Span

abbrev ByteRange := Nat × Nat

namespace CharClass

def lastCodePoint : Nat := 0x10FFFF

/-- The class of the given code points, which must ascend. -/
def ofAscending : List Nat → CharClass
  | [] => []
  | n :: ns =>
    match ofAscending ns with
    | [] => [(n, n)]
    | (lo, hi) :: rest => if lo = n + 1 then (n, hi) :: rest else (n, n) :: (lo, hi) :: rest

/-- The code points from `lo` on that are in none of the ranges. -/
def outsideFrom (lo : Nat) : CharClass → CharClass
  | [] => if lo ≤ lastCodePoint then [(lo, lastCodePoint)] else []
  | (a, b) :: rest => (if lo < a then [(lo, a - 1)] else []) ++ outsideFrom (b + 1) rest

def complement (cls : CharClass) : CharClass :=
  outsideFrom 0 cls

def isAscii (cls : CharClass) : Bool :=
  cls.all fun span => span.2 < 128

/-- The sequences for the numbers from `lo` to `hi`, written with `count` bytes of six bits behind
a first byte, to which `mark` is added. Beginning and end are cut off where they do not fill
all values of the bytes behind. -/
def numberSequences (mark : Nat) : (count lo hi : Nat) → List (List ByteRange)
  | 0, lo, hi => [[(mark + lo, mark + hi)]]
  | count + 1, lo, hi =>
    let size := 64 ^ (count + 1)
    let a := lo / size
    let b := hi / size
    if a = b then
      (numberSequences 0x80 count (lo % size) (hi % size)).map ((mark + a, mark + a) :: ·)
    else
      let first := if lo % size = 0 then a else a + 1
      let stop := if hi % size = size - 1 then b + 1 else b
      (if lo % size = 0 then []
        else (numberSequences 0x80 count (lo % size) (size - 1)).map ((mark + a, mark + a) :: ·))
      ++ (if first < stop
        then [(mark + first, mark + stop - 1) :: List.replicate (count + 1) (0x80, 0xBF)] else [])
      ++ (if hi % size = size - 1 then []
        else (numberSequences 0x80 count 0 (hi % size)).map ((mark + b, mark + b) :: ·))

/-- The code points that are written alike: their range, the number of bytes behind the first,
and the mark of the first. Surrogates are not written at all. -/
def forms : List (Span × Nat × Nat) :=
  [((0, 0x7F), 0, 0), ((0x80, 0x7FF), 1, 0xC0), ((0x800, 0xD7FF), 2, 0xE0),
   ((0xE000, 0xFFFF), 2, 0xE0), ((0x10000, lastCodePoint), 3, 0xF0)]

def spanSequences (span : Span) : List (List ByteRange) :=
  forms.flatMap fun (form, count, mark) =>
    let lo := max form.1 span.1
    let hi := min form.2 span.2
    if lo ≤ hi then numberSequences mark count lo hi else []

def sequences (cls : CharClass) : List (List ByteRange) :=
  cls.flatMap spanSequences

end CharClass

def blankClass : CharClass :=
  CharClass.ofAscending (blanks.map Char.toNat)

example : blankClass.sequences.length = 10 := by decide

example : blankClass.complement.sequences.length = 25 := by decide

end ChartDialogue.Text
