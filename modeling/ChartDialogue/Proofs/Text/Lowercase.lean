import ChartDialogue.Proofs.Text.Tables
import ChartDialogue.Proofs.Text.Words
import ChartDialogue.Text.Lowercase
import Mathlib.Data.List.Basic

/-!
Lower-casing and words. A space has no case and is not passed over, so the words of a text are
lower-cased apart from each other. Lower-casing makes no blank and no wildcard out of another
character, which is checked once over the table of lower-case forms.
-/
namespace ChartDialogue.Text

theorem isLower_toLower_of_ne {c : Char} (h : c.toLower ≠ c) : c.toLower.isLower = true := by
  have hup : c.val ≥ 'A'.val ∧ c.val ≤ 'Z'.val := by
    by_contra hn
    refine h ?_
    unfold Char.toLower
    exact dif_neg hn
  have hval : c.toLower.val = c.val + ('a'.val - 'A'.val) := by
    unfold Char.toLower
    rw [dif_pos hup]
  have hdist : ('a'.val - 'A'.val).toNat = 32 := rfl
  have hA : 'A'.val.toNat = 65 := rfl
  have hZ : 'Z'.val.toNat = 90 := rfl
  have ha : 'a'.val.toNat = 97 := rfl
  have hz : 'z'.val.toNat = 122 := rfl
  simp only [ge_iff_le, UInt32.le_iff_toNat_le] at hup
  unfold Char.isLower
  simp only [hval, ge_iff_le, UInt32.le_iff_toNat_le, UInt32.toNat_add, Bool.and_eq_true,
    decide_eq_true_eq]
  omega

theorem toNat_ofNat_eq (n : Nat) : (Char.ofNat n).toNat = n ∨ (Char.ofNat n).toNat = 0 := by
  unfold Char.ofNat
  by_cases hn : n.isValidChar
  · rw [dif_pos hn]
    exact Or.inl rfl
  · rw [dif_neg hn]
    exact Or.inr rfl

/-- Whether no run of a table reaches a code point. -/
def misses (table : Array CaseRun) (n : Nat) : Bool :=
  table.toList.all fun run =>
    decide (n < run.image) || decide (run.image + (run.span.2 - run.span.1) < n)

theorem imageIn?_ne {table : Array CaseRun} {d : Char} (hd : d.toNat ≠ 0)
    (hmiss : misses table d.toNat = true) (c : Char) : imageIn? table c ≠ some d := by
  intro h
  obtain ⟨run, hrun, m, hsends, rfl⟩ := exists_sends_of_imageIn? h
  obtain ⟨hfirst, hlast, -, himage⟩ := CaseRun.sends_iff.mp hsends
  have hrange := List.all_eq_true.mp hmiss run (Array.mem_toList_iff.mpr hrun)
  simp only [Bool.or_eq_true, decide_eq_true_eq] at hrange
  have hnat := toNat_ofNat_eq m
  omega

/-- The characters that only come out of themselves: the blanks and the two wildcards. -/
def caseless : List Char :=
  '*' :: '_' :: blanks

theorem caseless_checked :
    caseless.all (fun d => d.toNat != 0 && misses lowercaseRuns d.toNat
      && !d.isLower && d != '\u0307' && d != 'ς' && d != 'σ') = true := by
  decide +kernel

/-- A caseless character is the lower-case form of no other. -/
theorem eq_of_mem_lowerChar {c d : Char} (hd : d ∈ caseless) (h : d ∈ lowerChar c) : c = d := by
  have hcheck := List.all_eq_true.mp caseless_checked d hd
  simp only [Bool.and_eq_true, bne_iff_ne, ne_eq, Bool.not_eq_true'] at hcheck
  obtain ⟨⟨⟨⟨⟨hzero, hmiss⟩, hlower⟩, hdot⟩, -⟩, -⟩ := hcheck
  unfold lowerChar at h
  split at h
  · obtain rfl : d = c.toLower := List.mem_singleton.mp h
    by_contra hne
    exact absurd (isLower_toLower_of_ne (Ne.symm hne)) (by simp [hlower])
  · split at h
    · rcases List.mem_cons.mp h with rfl | h
      · simp at hlower
      · exact absurd (List.mem_singleton.mp h) hdot
    · split at h
      · rename_i e heq
        obtain rfl : d = e := List.mem_singleton.mp h
        exact absurd heq (imageIn?_ne hzero hmiss c)
      · exact (List.mem_singleton.mp h).symm

theorem lowerSigma_not_mem_caseless (before after : Text) : lowerSigma before after ∉ caseless := by
  intro h
  have hcheck := List.all_eq_true.mp caseless_checked _ h
  simp only [Bool.and_eq_true, bne_iff_ne, ne_eq] at hcheck
  obtain ⟨⟨-, hfinal⟩, hsmall⟩ := hcheck
  unfold lowerSigma at hfinal hsmall
  split at hfinal
  · exact hfinal rfl
  · rename_i hcase
    exact hsmall (if_neg hcase)

/-- What a character becomes is never a caseless character, unless it is that already. -/
theorem eq_of_mem_lowerFrom {before s : Text} {d : Char} (hd : d ∈ caseless)
    (h : d ∈ lowerFrom before s) : d ∈ s := by
  induction s generalizing before with
  | nil => simp [lowerFrom] at h
  | cons c s ih =>
    unfold lowerFrom at h
    rcases List.mem_append.mp h with h | h
    · split at h
      · obtain rfl := List.mem_singleton.mp h
        exact absurd hd (lowerSigma_not_mem_caseless before s)
      · rw [eq_of_mem_lowerChar hd h]
        exact List.mem_cons_self
    · exact List.mem_cons_of_mem c (ih h)

theorem lowerChar_ne_nil (c : Char) : lowerChar c ≠ [] := by
  unfold lowerChar
  split
  · simp
  · split
    · simp
    · split <;> simp

theorem length_le_lowerFrom (before s : Text) : s.length ≤ (lowerFrom before s).length := by
  induction s generalizing before with
  | nil => simp
  | cons c s ih =>
    have hrest := ih (c :: before)
    have hone : 0 < (lowerChar c).length := List.length_pos_iff.mpr (lowerChar_ne_nil c)
    unfold lowerFrom
    split
    · simp only [List.length_append, List.length_cons, List.length_nil]
      omega
    · simp only [List.length_append, List.length_cons]
      omega

/-- A word stays a word. -/
theorem unbroken_lowercase {w : Text} (hw : Unbroken w) : Unbroken (lowercase w) := by
  constructor
  · intro h
    have hlen := length_le_lowerFrom [] w
    rw [← lowercase, h] at hlen
    exact hw.1 (List.length_eq_zero_iff.mp (Nat.le_zero.mp hlen))
  · intro c hc
    by_contra hblank
    have hmem : c ∈ blanks := isBlank_iff.mp (by simpa using hblank)
    have hself := eq_of_mem_lowerFrom (by simp [caseless, hmem]) hc
    exact hblank (hw.2 c hself)

/-- A wildcard comes out of itself only. -/
theorem lowercase_eq_singleton_iff {w : Text} {c : Char} (hc : c = '*' ∨ c = '_') :
    lowercase w = [c] ↔ w = [c] := by
  constructor
  · intro h
    have hlen := length_le_lowerFrom [] w
    rw [← lowercase, h] at hlen
    have hmem : c ∈ w := by
      have hlower : c ∈ lowerFrom [] w := by
        rw [← lowercase, h]
        exact List.mem_cons_self
      refine eq_of_mem_lowerFrom ?_ hlower
      rcases hc with rfl | rfl <;> decide
    match w, hlen, hmem with
    | [d], _, hmem => rw [List.mem_singleton.mp hmem]
  · rintro rfl
    rcases hc with rfl | rfl <;> rfl

theorem casedAhead_append_space (s rest : Text) :
    casedAhead (s ++ ' ' :: rest) = casedAhead s := by
  have hignored : covers caseIgnorableSpans ' ' = false := by decide +kernel
  have hcased : covers casedSpans ' ' = false := by decide +kernel
  unfold casedAhead
  rw [List.dropWhile_append]
  cases hs : s.dropWhile (covers caseIgnorableSpans) with
  | nil => simp [hignored, hcased]
  | cons c s => simp

theorem lowerFrom_before_space (before far s : Text) :
    lowerFrom (before ++ ' ' :: far) s = lowerFrom before s := by
  induction s generalizing before with
  | nil => rfl
  | cons c s ih =>
    have hrest := ih (c :: before)
    rw [List.cons_append] at hrest
    unfold lowerFrom
    rw [hrest]
    unfold lowerSigma
    rw [casedAhead_append_space]

/-- A space ends what the form of a sigma can depend on. -/
theorem lowerFrom_append_space (before s rest : Text) :
    lowerFrom before (s ++ ' ' :: rest) = lowerFrom before s ++ ' ' :: lowercase rest := by
  induction s generalizing before with
  | nil =>
    have hstep : lowerFrom before (' ' :: rest) = ' ' :: lowerFrom (' ' :: before) rest := rfl
    have hspace : lowerFrom (' ' :: before) rest = lowercase rest :=
      lowerFrom_before_space [] before rest
    rw [List.nil_append, hstep, hspace, lowerFrom, List.nil_append]
  | cons c s ih =>
    rw [List.cons_append]
    unfold lowerFrom
    rw [ih, List.append_assoc]
    unfold lowerSigma
    rw [casedAhead_append_space]

/-- A space ends what decides about a sigma, so words are lower-cased one by one. -/
theorem lowercase_join (ws : List Text) :
    lowercase (join [' '] ws) = join [' '] (ws.map lowercase) := by
  induction ws with
  | nil => rfl
  | cons w ws ih =>
    cases ws with
    | nil => rfl
    | cons v vs =>
      have hspace := lowerFrom_append_space [] w (join [' '] (v :: vs))
      simp only [join, List.map_cons, List.append_assoc, List.singleton_append] at ih hspace ⊢
      rw [lowercase, hspace, ih]
      rfl

/-- The words of a lower-cased text are its words in lower case. -/
theorem words_lowercase_normalize (s : Text) :
    words (lowercase (normalize s)) = (words s).map lowercase := by
  rw [normalize, lowercase_join]
  refine words_join fun v hv => ?_
  obtain ⟨w, hw, rfl⟩ := List.mem_map.mp hv
  exact unbroken_lowercase (unbroken_of_mem_words hw)

end ChartDialogue.Text
