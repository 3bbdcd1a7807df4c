import ChartDialogue.Proofs.Text.Reading
import Mathlib.Data.List.Basic

/-!
Replacing the items of a text. The parts between the items stay as they are, so replacing every item by
the same text joins these parts by it, whatever that text is: it is not read again. A replacement
depends on the items only.
-/
namespace ChartDialogue.Text

variable {α : Type}

/-- The runs of characters before, between and after the items of a text that is read. -/
def runs : List (Char ⊕ α) → List Text
  | [] => [[]]
  | .inl c :: pieces => (runs pieces).modifyHead (c :: ·)
  | .inr _ :: pieces => [] :: runs pieces

/-- The items of a text that is read. -/
def items (pieces : List (Char ⊕ α)) : List α :=
  pieces.filterMap Sum.getRight?

theorem runs_ne_nil (pieces : List (Char ⊕ α)) : runs pieces ≠ [] := by
  induction pieces with
  | nil => exact List.cons_ne_nil [] []
  | cons piece pieces ih =>
    cases piece with
    | inl c => rwa [runs, ne_eq, List.modifyHead_eq_nil_iff]
    | inr a => exact List.cons_ne_nil [] (runs pieces)

theorem length_runs (pieces : List (Char ⊕ α)) :
    (runs pieces).length = (items pieces).length + 1 := by
  induction pieces with
  | nil => rfl
  | cons piece pieces ih =>
    cases piece with
    | inl c =>
      have hitems : items (.inl c :: pieces) = items pieces := rfl
      rw [runs, List.length_modifyHead, ih, hitems]
    | inr a =>
      have hitems : items (.inr a :: pieces) = a :: items pieces := rfl
      rw [runs, List.length_cons, ih, hitems, List.length_cons]

theorem join_modifyHead (gap : Text) (c : Char) {texts : List Text} (h : texts ≠ []) :
    join gap (texts.modifyHead (c :: ·)) = c :: join gap texts := by
  obtain ⟨first, rest, rfl⟩ := List.exists_cons_of_ne_nil h
  cases rest with
  | nil => rfl
  | cons second rest => rfl

theorem join_nil_cons (gap : Text) {texts : List Text} (h : texts ≠ []) :
    join gap ([] :: texts) = gap ++ join gap texts := by
  obtain ⟨first, rest, rfl⟩ := List.exists_cons_of_ne_nil h
  rfl

/-- By induction over the pieces: a character goes to the first run, an item starts another run. -/
theorem flatMap_eq_join (value : Text) (pieces : List (Char ⊕ α)) :
    pieces.flatMap (Sum.elim ([·]) fun _ => value) = join value (runs pieces) := by
  induction pieces with
  | nil => rfl
  | cons piece pieces ih =>
    have hne := runs_ne_nil pieces
    rw [List.flatMap_cons, ih]
    cases piece with
    | inl c => exact (join_modifyHead value c hne).symm
    | inr a => exact (join_nil_cons value hne).symm

namespace Scanner

theorem findAll_eq_items (p : Scanner α) (s : Text) : p.findAll s = items (p.pieces s) := by
  unfold findAll items
  congr 1
  funext piece
  cases piece <;> rfl

/-- Replacing goes through the pieces of a text. -/
theorem replaceAll_eq_flatMap (p : Scanner α) (f : α → Text) (s : Text) :
    p.replaceAll f s = (p.pieces s).flatMap (Sum.elim ([·]) f) := by
  unfold replaceAll
  congr 1
  funext piece
  cases piece <;> rfl

/-- An item at the beginning of a text is replaced. -/
theorem replaceAll_of_read (p : Scanner α) (f : α → Text) {s r : Text} {a : α} (hs : s ≠ [])
    (h : p.read s = some (a, r)) : p.replaceAll f s = f a ++ p.replaceAll f r := by
  rw [replaceAll_eq_flatMap, replaceAll_eq_flatMap, pieces_of_read p hs h]
  rfl

/-- A character at which no item begins stays. -/
theorem replaceAll_cons_of_none (p : Scanner α) (f : α → Text) {c : Char} {s : Text}
    (h : p.read (c :: s) = none) : p.replaceAll f (c :: s) = c :: p.replaceAll f s := by
  rw [replaceAll_eq_flatMap, replaceAll_eq_flatMap, pieces_cons_of_none p h]
  rfl

/-- So does a text of characters with which no item begins. -/
theorem replaceAll_append_of_none (p : Scanner α) (f : α → Text) {s : Text} (rest : Text)
    (h : ∀ c ∈ s, ∀ t, p.read (c :: t) = none) :
    p.replaceAll f (s ++ rest) = s ++ p.replaceAll f rest := by
  induction s with
  | nil => rfl
  | cons c s ih =>
    have hread : p.read (c :: (s ++ rest)) = none := h c List.mem_cons_self (s ++ rest)
    rw [List.cons_append, replaceAll_cons_of_none p f hread, List.cons_append,
      ih fun d hd => h d (List.mem_cons_of_mem c hd)]

/-- What replaces an item is not read, nor is any of it taken for something else. -/
theorem replaceAll_const (p : Scanner α) (value s : Text) :
    p.replaceAll (fun _ => value) s = join value (runs (p.pieces s)) := by
  rw [replaceAll_eq_flatMap, flatMap_eq_join]

/-- Only what the items of a text are replaced by counts. -/
theorem replaceAll_congr (p : Scanner α) {f g : α → Text} {s : Text}
    (h : ∀ a ∈ p.findAll s, f a = g a) : p.replaceAll f s = p.replaceAll g s := by
  rw [findAll_eq_items] at h
  rw [replaceAll_eq_flatMap, replaceAll_eq_flatMap]
  refine List.flatMap_congr fun piece hpiece => ?_
  cases piece with
  | inl c => rfl
  | inr a => exact h a (List.mem_filterMap.mpr ⟨.inr a, hpiece, rfl⟩)

end Scanner

end ChartDialogue.Text
