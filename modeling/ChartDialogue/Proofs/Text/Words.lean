import ChartDialogue.Text.Basic

/-!
Texts and their words. Splitting a text at separators undoes joining pieces that hold none, so a
text is determined up to blanks by its words: normalising keeps them, and the words of unbroken
texts joined by spaces are these texts.
-/
namespace ChartDialogue.Text

variable {isSep : Char → Bool}

theorem split_cons_of_clear {c : Char} {s first : Text} {rest : List Text}
    (hc : isSep c = false) (hs : split isSep s = first :: rest) :
    split isSep (c :: s) = (c :: first) :: rest := by
  unfold split
  simp only [hc, hs, Bool.false_eq_true, if_false]

theorem split_of_clear {s : Text} (hs : ∀ c ∈ s, isSep c = false) : split isSep s = [s] := by
  induction s with
  | nil => rfl
  | cons c s ih =>
    exact split_cons_of_clear (hs c List.mem_cons_self)
      (ih fun d hd => hs d (List.mem_cons_of_mem c hd))

/-- The piece before the first separator is split off. -/
theorem split_append_cons {s : Text} {d : Char} (hs : ∀ c ∈ s, isSep c = false)
    (hd : isSep d = true) (rest : Text) :
    split isSep (s ++ d :: rest) = s :: split isSep rest := by
  induction s with
  | nil => simp only [List.nil_append, split, hd, if_true]
  | cons c s ih =>
    exact split_cons_of_clear (hs c List.mem_cons_self)
      (ih fun e he => hs e (List.mem_cons_of_mem c he))

/-- A separator parts a text into two that are split on their own. -/
theorem split_append_sep {d : Char} (hd : isSep d = true) (s rest : Text) :
    split isSep (s ++ d :: rest) = split isSep s ++ split isSep rest := by
  induction s with
  | nil => simp only [List.nil_append, split, hd, if_true, List.singleton_append]
  | cons c s ih =>
    cases hc : isSep c with
    | true => simp only [List.cons_append, split, hc, if_true, ih]
    | false =>
      obtain ⟨first, pieces, hs⟩ := List.exists_cons_of_ne_nil (split_ne_nil isSep s)
      rw [hs, List.cons_append] at ih
      rw [List.cons_append, split_cons_of_clear hc ih, split_cons_of_clear hc hs, List.cons_append]

theorem clear_of_mem_split {s piece : Text} (h : piece ∈ split isSep s) :
    ∀ c ∈ piece, isSep c = false := by
  induction s generalizing piece with
  | nil =>
    simp only [split, List.mem_singleton] at h
    subst h
    simp
  | cons c s ih =>
    unfold split at h
    split at h
    · rcases List.mem_cons.mp h with rfl | h
      · simp
      · exact ih h
    · rename_i hc
      split at h
      · rename_i first rest heq
        rcases List.mem_cons.mp h with rfl | h
        · intro d hd
          rcases List.mem_cons.mp hd with rfl | hd
          · simpa using hc
          · exact ih (by rw [heq]; exact List.mem_cons_self) d hd
        · exact ih (by rw [heq]; exact List.mem_cons_of_mem first h)
      · rename_i heq
        exact absurd heq (split_ne_nil isSep s)

/-- Splitting makes up no character. -/
theorem mem_of_mem_split {s piece : Text} (h : piece ∈ split isSep s) : ∀ c ∈ piece, c ∈ s := by
  induction s generalizing piece with
  | nil =>
    obtain rfl := List.mem_singleton.mp h
    exact fun c hc => hc
  | cons c s ih =>
    have hlater : ∀ piece ∈ split isSep s, ∀ d ∈ piece, d ∈ c :: s :=
      fun piece hpiece d hd => List.mem_cons_of_mem c (ih hpiece d hd)
    cases hc : isSep c with
    | true =>
      simp only [split, hc, if_true, List.mem_cons] at h
      rcases h with rfl | h
      · exact fun d hd => absurd hd List.not_mem_nil
      · exact hlater piece h
    | false =>
      obtain ⟨first, pieces, hs⟩ := List.exists_cons_of_ne_nil (split_ne_nil isSep s)
      rw [split_cons_of_clear hc hs] at h
      rw [hs] at hlater
      rcases List.mem_cons.mp h with rfl | h
      · intro d hd
        rcases List.mem_cons.mp hd with rfl | hd
        · exact List.mem_cons_self
        · exact hlater first List.mem_cons_self d hd
      · exact hlater piece (List.mem_cons_of_mem first h)

/-- A text that can be a word: it is not empty and no blank breaks it. -/
def Unbroken (w : Text) : Prop :=
  w ≠ [] ∧ ∀ c ∈ w, isBlank c = false

theorem unbroken_of_mem_words {s w : Text} (h : w ∈ words s) : Unbroken w := by
  obtain ⟨hmem, hne⟩ := List.mem_filter.mp h
  refine ⟨?_, clear_of_mem_split hmem⟩
  rintro rfl
  simp at hne

/-- A word is made of characters of the text. -/
theorem mem_of_mem_words {s w : Text} (h : w ∈ words s) : ∀ c ∈ w, c ∈ s :=
  mem_of_mem_split (List.mem_filter.mp h).1

theorem words_of_unbroken {w : Text} (hw : Unbroken w) : words w = [w] := by
  have hne : w.isEmpty = false := List.isEmpty_eq_false_iff.mpr hw.1
  simp only [words, split_of_clear hw.2, List.filter_cons, hne, Bool.not_false, if_true,
    List.filter_nil]

/-- The first word ends at the first blank. -/
theorem words_append_cons {w : Text} {d : Char} (hw : Unbroken w) (hd : isBlank d = true)
    (rest : Text) : words (w ++ d :: rest) = w :: words rest := by
  have hne : w.isEmpty = false := List.isEmpty_eq_false_iff.mpr hw.1
  simp only [words, split_append_cons hw.2 hd, List.filter_cons, hne, Bool.not_false, if_true]

/-- Words joined by spaces are read again. -/
theorem words_join {ws : List Text} (h : ∀ w ∈ ws, Unbroken w) : words (join [' '] ws) = ws := by
  induction ws with
  | nil => rfl
  | cons w ws ih =>
    have hw := h w List.mem_cons_self
    have hrest := ih fun v hv => h v (List.mem_cons_of_mem w hv)
    cases ws with
    | nil => exact words_of_unbroken hw
    | cons v vs =>
      have hjoin : join [' '] (w :: v :: vs) = w ++ ' ' :: join [' '] (v :: vs) := by
        simp only [join, List.append_assoc, List.singleton_append]
      rw [hjoin, words_append_cons hw (by decide), hrest]

/-- Normalising does not change the words of a text. -/
theorem words_normalize (s : Text) : words (normalize s) = words s :=
  words_join fun _ hw => unbroken_of_mem_words hw

theorem isEmpty_normalize_iff {s : Text} : (normalize s).isEmpty = true ↔ words s = [] := by
  rw [List.isEmpty_iff]
  constructor
  · intro h
    rw [← words_normalize, h]
    rfl
  · intro h
    exact congrArg (join [' ']) h

theorem words_blank_cons {d : Char} (hd : isBlank d = true) (s : Text) : words (d :: s) = words s := by
  simp only [words, split, hd, if_true, List.filter_cons, List.isEmpty_nil, Bool.not_true,
    Bool.false_eq_true, if_false]

/-- A text spells words if it consists of them, in order, and of blanks: any number of them at the
two ends, and at least one between two words. -/
inductive Spells : Text → List Text → Prop where
  | nil : Spells [] []
  | blank {d : Char} {s : Text} {ws : List Text} :
    isBlank d = true → Spells s ws → Spells (d :: s) ws
  | last {w : Text} : Unbroken w → Spells w [w]
  | word {w s : Text} {d : Char} {ws : List Text} :
    Unbroken w → isBlank d = true → Spells s ws → Spells (w ++ d :: s) (w :: ws)

/-- What a text spells are its words. -/
theorem Spells.words_eq {s : Text} {ws : List Text} (h : Spells s ws) : words s = ws := by
  induction h with
  | nil => rfl
  | blank hd _ ih => rw [words_blank_cons hd, ih]
  | last hw => exact words_of_unbroken hw
  | word hw hd _ ih => rw [words_append_cons hw hd, ih]

theorem Unbroken.cons {c : Char} {w : Text} (hc : isBlank c = false) (hw : Unbroken w) :
    Unbroken (c :: w) :=
  ⟨List.cons_ne_nil c w, List.forall_mem_cons.mpr ⟨hc, hw.2⟩⟩

theorem unbroken_singleton {c : Char} (hc : isBlank c = false) : Unbroken [c] :=
  ⟨List.cons_ne_nil c [], List.forall_mem_singleton.mpr hc⟩

/-- By induction over the text: a character is a blank, a word of its own or the beginning of the word
that the rest begins with. -/
theorem exists_spells (s : Text) : ∃ ws, Spells s ws := by
  induction s with
  | nil => exact ⟨[], .nil⟩
  | cons c s ih =>
    obtain ⟨ws, h⟩ := ih
    cases hc : isBlank c with
    | true => exact ⟨ws, .blank hc h⟩
    | false =>
      cases h with
      | nil => exact ⟨[[c]], .last (unbroken_singleton hc)⟩
      | blank hd h => exact ⟨[c] :: ws, .word (unbroken_singleton hc) hd h⟩
      | last hw => exact ⟨[c :: s], .last (hw.cons hc)⟩
      | word hw hd h => exact ⟨_, .word (hw.cons hc) hd h⟩

/-- The words of a text are those that it spells. -/
theorem spells_iff {s : Text} {ws : List Text} : Spells s ws ↔ words s = ws := by
  constructor
  · exact Spells.words_eq
  · rintro rfl
    obtain ⟨ws, h⟩ := exists_spells s
    rw [h.words_eq]
    exact h

/-- A text without words is blank. -/
theorem words_eq_nil_iff {s : Text} : words s = [] ↔ ∀ c ∈ s, isBlank c = true := by
  constructor
  · intro h
    have hspells := spells_iff.mpr h
    clear h
    generalize hws : [] = ws at hspells
    induction hspells with
    | nil => exact fun c hc => absurd hc List.not_mem_nil
    | blank hd _ ih => exact List.forall_mem_cons.mpr ⟨hd, ih hws⟩
    | last hw => exact absurd hws.symm (List.cons_ne_nil _ _)
    | word hw hd hs => exact absurd hws.symm (List.cons_ne_nil _ _)
  · intro h
    induction s with
    | nil => rfl
    | cons c s ih =>
      obtain ⟨hc, hs⟩ := List.forall_mem_cons.mp h
      rw [words_blank_cons hc, ih hs]

theorem words_dropBlanks (s : Text) : words (dropBlanks s) = words s := by
  induction s with
  | nil => rfl
  | cons c s ih =>
    rw [dropBlanks, List.dropWhile_cons]
    split
    · rename_i hc
      rw [words_blank_cons hc]
      exact ih
    · rfl

end ChartDialogue.Text
