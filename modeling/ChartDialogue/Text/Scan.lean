import ChartDialogue.Text.Basic

/-!
Finding items in a text from left to right. A scanner reads one item at the beginning of a
text and always consumes something, so that the search for all items comes to an end.
-/
namespace ChartDialogue.Text

variable {α β : Type}

structure Scanner (α : Type) where
  read : Text → Option (α × Text)
  shorter : ∀ {s a r}, read s = some (a, r) → r.length < s.length

namespace Scanner

/-- A text as the items found in it and the characters that belong to none, in order. -/
def pieces (p : Scanner α) : Text → List (Char ⊕ α)
  | [] => []
  | c :: s =>
    match h : p.read (c :: s) with
    | some (a, r) =>
      have := p.shorter h
      .inr a :: pieces p r
    | none => .inl c :: pieces p s
termination_by s => s.length
decreasing_by
  · assumption
  · exact Nat.lt_succ_self _

def findAll (p : Scanner α) (s : Text) : List α :=
  (p.pieces s).filterMap fun
    | .inl _ => none
    | .inr a => some a

def replaceAll (p : Scanner α) (f : α → Text) (s : Text) : Text :=
  (p.pieces s).flatMap fun
    | .inl c => [c]
    | .inr a => f a

end Scanner

/-- The first success of a reader at the ends of a text, from the whole text on. -/
def firstMatch? (read : Text → Option β) : Text → Option β
  | [] => read []
  | c :: s =>
    match read (c :: s) with
    | some b => some b
    | none => firstMatch? read s

theorem length_dropWhile_le (f : Char → Bool) (s : Text) : (s.dropWhile f).length ≤ s.length :=
  (List.dropWhile_suffix f).length_le

theorem length_lt_of_upTo? {stop : Char} {s t r : Text} (h : upTo? stop s = some (t, r)) :
    r.length < s.length := by
  obtain ⟨-, rfl⟩ := upTo?_eq_some_iff.mp h
  simp
  omega

theorem length_le_of_expect? {lead s r : Text} (h : expect? lead s = some r) :
    r.length ≤ s.length := by
  obtain rfl := expect?_eq_some_iff.mp h
  simp

end ChartDialogue.Text
