import ChartDialogue.Proofs.Text.Reading
import Mathlib.Data.List.Chain

/-!
Texts without blanks at their ends. Trimming makes such a text of any text and leaves such a text
alone. Words that are joined by single spaces are trimmed, and have no two blanks next to each other.
-/
namespace ChartDialogue.Text

variable {s t : Text}

theorem not_isBlank_of_head?_dropBlanks {c : Char} (h : c ∈ (dropBlanks s).head?) :
    isBlank c = false := by
  have hhead := List.head?_dropWhile_not isBlank s
  rw [dropBlanks] at h
  rw [Option.mem_def.mp h] at hhead
  exact hhead

theorem not_isBlank_of_getLast?_trim {c : Char} (h : c ∈ (trim s).getLast?) : isBlank c = false := by
  rw [trim, List.getLast?_reverse] at h
  exact not_isBlank_of_head?_dropBlanks h

/-- A text without blanks at its ends is left as it is. -/
theorem trim_eq_self (hhead : ∀ c ∈ s.head?, isBlank c = false)
    (hlast : ∀ c ∈ s.getLast?, isBlank c = false) : trim s = s := by
  have hfront : trim ([] ++ s) = s :=
    trim_append (fun c hc => absurd hc List.not_mem_nil) hhead hlast
  exact hfront

theorem count_dropWhile {p : Char → Bool} {c : Char} (hc : p c = false) (s : Text) :
    (s.dropWhile p).count c = s.count c := by
  have hfront : (s.takeWhile p).count c = 0 := by
    refine List.count_eq_zero.mpr fun hmem => ?_
    rw [List.all_eq_true.mp List.all_takeWhile c hmem] at hc
    exact absurd hc (by decide)
  have hsplit := congrArg (List.count c) (List.takeWhile_append_dropWhile (p := p) (l := s))
  rw [List.count_append] at hsplit
  omega

/-- Trimming takes away blanks only. -/
theorem count_trim {c : Char} (hc : isBlank c = false) (s : Text) : (trim s).count c = s.count c := by
  rw [trim, dropBlanks, dropBlanks, List.count_reverse, count_dropWhile hc, List.count_reverse,
    count_dropWhile hc]

/-- A text that stands within a line, without blanks at its ends. -/
structure OneLine (s : Text) : Prop where
  trimmed : trim s = s
  newline : '\n' ∉ s

/-- A text that is not empty, does not begin or end with a blank and has no two blanks next to each
other. -/
structure Tidy (s : Text) : Prop where
  ne_nil : s ≠ []
  head : ∀ c ∈ s.head?, isBlank c = false
  last : ∀ c ∈ s.getLast?, isBlank c = false
  single : s.IsChain fun c d => isBlank c = false ∨ isBlank d = false

theorem tidy_of_unbroken (h : Unbroken s) : Tidy s where
  ne_nil := h.1
  head := fun c hc => h.2 c (List.mem_of_mem_head? hc)
  last := fun c hc => h.2 c (List.mem_of_getLast? hc)
  single := by
    refine List.isChain_iff_getElem.mpr fun i hi => Or.inl ?_
    exact h.2 _ (List.getElem_mem _)

/-- A word, a space and a tidy text make a tidy text. -/
theorem Tidy.cons_word {w : Text} (hw : Unbroken w) (h : Tidy s) : Tidy (w ++ ' ' :: s) where
  ne_nil := by simp
  head := by
    intro c hc
    rw [List.head?_append_of_ne_nil _ hw.1] at hc
    exact hw.2 c (List.mem_of_mem_head? hc)
  last := by
    intro c hc
    rw [List.getLast?_append_of_ne_nil _ (List.cons_ne_nil ' ' s), List.getLast?_cons_of_ne_nil h.ne_nil]
      at hc
    exact h.last c hc
  single := by
    have hrest : (' ' :: s).IsChain fun c d => isBlank c = false ∨ isBlank d = false :=
      List.isChain_cons.mpr ⟨fun c hc => Or.inr (h.head c hc), h.single⟩
    refine List.isChain_append.mpr ⟨(tidy_of_unbroken hw).single, hrest, fun c hc d _ => Or.inl ?_⟩
    exact hw.2 c (List.mem_of_getLast? hc)

/-- Words joined by single spaces make a tidy text. -/
theorem tidy_join {ws : List Text} (hne : ws ≠ []) (h : ∀ w ∈ ws, Unbroken w) :
    Tidy (join [' '] ws) := by
  induction ws with
  | nil => exact absurd rfl hne
  | cons w ws ih =>
    have hw := h w List.mem_cons_self
    cases ws with
    | nil => exact tidy_of_unbroken hw
    | cons v vs =>
      have hrest := ih (List.cons_ne_nil v vs) fun u hu => h u (List.mem_cons_of_mem w hu)
      have hjoin : join [' '] (w :: v :: vs) = w ++ ' ' :: join [' '] (v :: vs) := by
        simp only [join, List.append_assoc, List.singleton_append]
      rw [hjoin]
      exact hrest.cons_word hw

end ChartDialogue.Text
