import ChartDialogue.Proofs.Text.CaseFold

/-!
Lower-casing a text that has been lower-cased or folded. A lower-case form has no other lower-case
form, so lower-casing twice is lower-casing once. A folded text has the lower-case form of the text
unless it has a capital sigma or one of the few characters that fold to one with another lower-case
form. Texts without these characters that fold alike have the same lower-case form.
-/
namespace ChartDialogue.Text

section Again

variable {c d : Char} {s before : Text}

theorem forms_apart_capitals :
    bits (lowercaseRuns.toList.flatMap CaseRun.images) &&&
      bits (lowercaseRuns.toList.flatMap CaseRun.codes) = 0 := by
  decide +kernel

theorem forms_after_capitals :
    lowercaseRuns.toList.all (fun run => decide ('Z'.toNat < run.image)) = true := by
  decide +kernel

/-- A character that lower-casing leaves alone wherever it stands. -/
structure IsLowercase (c : Char) : Prop where
  form : lowerChar c = [c]
  ne_sigma : c ≠ 'Σ'

theorem isLowercase_of_imageIn? (h : imageIn? lowercaseRuns c = some d) : IsLowercase d := by
  obtain ⟨hlower, hend⟩ := imageIn?_image forms_apart_capitals forms_after_capitals h
  have hdotted : d ≠ 'İ' := by
    rintro rfl
    exact imageIn?_ne (by decide) (by decide +kernel) c h
  have hsigma : d ≠ 'Σ' := by
    rintro rfl
    exact imageIn?_ne (by decide) (by decide +kernel) c h
  refine ⟨?_, hsigma⟩
  unfold lowerChar
  split_ifs with hascii
  · rw [hlower]
  · rw [hend.resolve_left hascii]

theorem isLowercase_of_ascii (h : c.toNat < 128) : IsLowercase c.toLower := by
  have hascii : c.toLower.toNat < 128 ∧ c.toLower.toLower = c.toLower := by
    by_cases hsame : c.toLower = c
    · rw [hsame]
      exact ⟨h, hsame⟩
    · obtain ⟨hafter, hascii⟩ := toNat_of_isLower (isLower_toLower_of_ne hsame)
      exact ⟨hascii, toLower_eq_self (Or.inr hafter)⟩
  constructor
  · rw [lowerChar, if_pos hascii.1, hascii.2]
  · intro hsigma
    rw [hsigma] at hascii
    exact absurd hascii.1 (by decide)

/-- The characters that stand for a dotted capital i and for a capital sigma. -/
theorem isLowercase_of_special (h : d ∈ ['i', '\u0307', 'ς', 'σ']) : IsLowercase d := by
  have hforms : ∀ e ∈ ['i', '\u0307', 'ς', 'σ'], lowerChar e = [e] ∧ e ≠ 'Σ' := by
    rw [List.forall_mem_cons, List.forall_mem_cons, List.forall_mem_cons, List.forall_mem_singleton]
    decide +kernel
  exact ⟨(hforms d h).1, (hforms d h).2⟩

theorem isLowercase_of_mem_lowerChar (hc : c ≠ 'Σ') (h : d ∈ lowerChar c) : IsLowercase d := by
  unfold lowerChar at h
  split_ifs at h with hascii hdotted
  · obtain rfl := List.mem_singleton.mp h
    exact isLowercase_of_ascii hascii
  · exact isLowercase_of_special (List.mem_append_left ['ς', 'σ'] h)
  · split at h
    · rename_i e himage
      obtain rfl := List.mem_singleton.mp h
      exact isLowercase_of_imageIn? himage
    · rename_i himage
      obtain rfl := List.mem_singleton.mp h
      refine ⟨?_, hc⟩
      rw [lowerChar, if_neg hascii, if_neg hdotted, himage]

theorem isLowercase_lowerSigma (before after : Text) : IsLowercase (lowerSigma before after) := by
  have hmem : lowerSigma before after ∈ ['ς', 'σ'] := by
    unfold lowerSigma
    split_ifs <;> simp
  exact isLowercase_of_special (List.mem_append_right ['i', '\u0307'] hmem)

theorem isLowercase_of_mem_lowerFrom (h : d ∈ lowerFrom before s) : IsLowercase d := by
  induction s generalizing before with
  | nil => exact absurd h List.not_mem_nil
  | cons c s ih =>
    rw [lowerFrom, List.mem_append] at h
    rcases h with h | h
    · split_ifs at h with hsigma
      · obtain rfl := List.mem_singleton.mp h
        exact isLowercase_lowerSigma before s
      · exact isLowercase_of_mem_lowerChar hsigma h
    · exact ih h

/-- Without a capital sigma the characters are lower-cased one by one. -/
theorem lowerFrom_eq_flatMap (before : Text) (h : 'Σ' ∉ s) :
    lowerFrom before s = s.flatMap lowerChar := by
  induction s generalizing before with
  | nil => rfl
  | cons c s ih =>
    rw [List.mem_cons, not_or] at h
    rw [lowerFrom, if_neg (Ne.symm h.1), ih (c :: before) h.2, List.flatMap_cons]

/-- What is lower-cased once is not changed by doing it again. -/
theorem lowercase_lowercase (s : Text) : lowercase (lowercase s) = lowercase s := by
  have hforms : ∀ c ∈ lowercase s, IsLowercase c := fun c hc => isLowercase_of_mem_lowerFrom hc
  have hsigma : 'Σ' ∉ lowercase s := fun hc => (hforms 'Σ' hc).ne_sigma rfl
  have hcharacters : (lowercase s).flatMap lowerChar = (lowercase s).flatMap fun c => [c] :=
    List.flatMap_congr fun c hc => (hforms c hc).form
  rw [lowercase, lowerFrom_eq_flatMap [] hsigma, hcharacters, List.flatMap_singleton']

theorem isEmpty_lowercase (s : Text) : (lowercase s).isEmpty = s.isEmpty := by
  have hlength := length_le_lowerFrom [] s
  cases s with
  | nil => rfl
  | cons c s =>
    rw [List.isEmpty_cons, List.isEmpty_eq_false_iff, ← List.length_pos_iff]
    exact Nat.lt_of_lt_of_le (Nat.succ_pos s.length) hlength

end Again

section Folded

variable {c : Char} {s t : Text}

/-- A character has the lower-case form of what it folds to. -/
def Stable (c : Char) : Prop :=
  lowerChar (foldChar c) = lowerChar c

instance (c : Char) : Decidable (Stable c) :=
  inferInstanceAs (Decidable (lowerChar (foldChar c) = lowerChar c))

theorem ascending_lowercaseRuns : Ascending CaseRun.span lowercaseRuns := by
  unfold Ascending
  decide +kernel

/-- The code points of the characters that are not stable. -/
def unstable : List Nat :=
  [0xB5, 0x17F, 0x345, 0x3C2, 0x3D0, 0x3D1, 0x3D5, 0x3D6, 0x3F0, 0x3F1, 0x3F5] ++
    List.range' 0x1C80 9 ++ [0x1E9B, 0x1FBE, 0x1FD3, 0x1FE3, 0xFB05]

/-- The runs of folding that are not runs of lower-case forms. -/
def foldingRuns : List CaseRun :=
  (unstable.map fun n => ⟨(n, n), 1, (foldChar (Char.ofNat n)).toNat⟩) ++
    [⟨(0x1C83, 0x1C84), 1, 0x441⟩, ⟨(0x13F8, 0x13FD), 1, 0x13F0⟩, ⟨(0xA7CC, 0xA7CC), 1, 0xA7CD⟩,
      ⟨(0xA7D0, 0xA7D0), 1, 0xA7D1⟩, ⟨(0xA7D6, 0xA7DA), 2, 0xA7D7⟩, ⟨(0xAB70, 0xABBF), 1, 0x13A0⟩]

theorem sublist_lowercaseRuns :
    (caseFoldRuns.toList.filter (· ∉ foldingRuns)).isSublist lowercaseRuns.toList = true := by
  decide +kernel

theorem stable_foldingRuns :
    ∀ run ∈ foldingRuns, ∀ n ∈ run.codes, n ∈ unstable ∨ Stable (Char.ofNat n) := by
  decide +kernel

theorem not_stable_unstable : ∀ n ∈ unstable, ¬Stable (Char.ofNat n) := by
  decide +kernel

/-- A run of folding that is a run of lower-case forms as well maps a character to its lower-case
form. The few other runs are checked character by character. -/
theorem stable_of_imageIn? {d : Char} (hascii : ¬c.toNat < 128) (hc : c.toNat ∉ unstable)
    (h : imageIn? caseFoldRuns c = some d) : Stable c := by
  obtain ⟨run, hrun, m, hsends, hd⟩ := exists_sends_of_imageIn? h
  by_cases hown : run ∈ foldingRuns
  · have hstable := stable_foldingRuns run hown c.toNat (CaseRun.mem_codes_images hsends).1
    rw [Char.ofNat_toNat] at hstable
    exact hstable.resolve_left hc
  · have hkept : run ∈ caseFoldRuns.toList.filter (· ∉ foldingRuns) :=
      List.mem_filter.mpr ⟨Array.mem_toList_iff.mpr hrun, decide_eq_true hown⟩
    have hlowers : run ∈ lowercaseRuns :=
      Array.mem_toList_iff.mp ((List.isSublist_iff_sublist.mp sublist_lowercaseRuns).subset hkept)
    have himage : imageIn? lowercaseRuns c = some d := by
      rw [imageIn?_of_sends ascending_lowercaseRuns hlowers hsends, hd]
    have hdotted : c ≠ 'İ' := by
      rintro rfl
      have hnone : imageIn? caseFoldRuns 'İ' = none := by decide +kernel
      rw [hnone] at h
      exact absurd h.symm (Option.some_ne_none d)
    have hfold : foldChar c = d := by
      rw [foldChar, if_neg hascii, h, Option.getD_some]
    have hform : lowerChar c = [d] := by
      rw [lowerChar, if_neg hascii, if_neg hdotted, himage]
    rw [Stable, hfold, hform, (isLowercase_of_imageIn? himage).form]

/-- Lower-casing sees no difference that folding does not see, but for the listed characters. -/
theorem stable_iff (c : Char) : Stable c ↔ c.toNat ∉ unstable := by
  constructor
  · intro hstable hc
    have hnot := not_stable_unstable c.toNat hc
    rw [Char.ofNat_toNat] at hnot
    exact hnot hstable
  · intro hc
    by_cases hascii : c.toNat < 128
    · rw [Stable, foldChar_of_ascii hascii, (isLowercase_of_ascii hascii).form, lowerChar,
        if_pos hascii]
    · cases himage : imageIn? caseFoldRuns c with
      | some d => exact stable_of_imageIn? hascii hc himage
      | none => rw [Stable, foldChar, if_neg hascii, himage, Option.getD_none]

/-- Texts that fold alike are the same in lower case, but for a sigma or a listed character. -/
theorem lowercase_eq_of_caseFold_eq (hs : ∀ c ∈ s, c ≠ 'Σ' ∧ c.toNat ∉ unstable)
    (ht : ∀ c ∈ t, c ≠ 'Σ' ∧ c.toNat ∉ unstable) (h : caseFold s = caseFold t) :
    lowercase s = lowercase t := by
  have hform : ∀ {u : Text}, (∀ c ∈ u, c ≠ 'Σ' ∧ c.toNat ∉ unstable) →
      lowercase u = (caseFold u).flatMap lowerChar := by
    intro u hu
    rw [lowercase, lowerFrom_eq_flatMap [] fun hsigma => (hu 'Σ' hsigma).1 rfl, caseFold,
      List.flatMap_map]
    exact List.flatMap_congr fun c hc => ((stable_iff c).mpr (hu c hc).2).symm
  rw [hform hs, hform ht, h]

end Folded
end ChartDialogue.Text
