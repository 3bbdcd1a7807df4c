import ChartDialogue.Proofs.Text.Lowercase
import ChartDialogue.Proofs.Text.Tables
import ChartDialogue.Text.CaseFold

/-!
Case folding after lower-casing. Folding twice is folding once, and a text that is lower-cased
first folds to the same, unless it has one of the few characters whose lower-case form folds to
something else than the character does. Texts without such characters that have the same lower-case
form fold alike.
-/
namespace ChartDialogue.Text

deriving instance DecidableEq for CaseRun

def CaseRun.codes (run : CaseRun) : List Nat :=
  List.range' run.span.1 ((run.span.2 - run.span.1) / run.step + 1) run.step

def CaseRun.images (run : CaseRun) : List Nat :=
  List.range' run.image ((run.span.2 - run.span.1) / run.step + 1) run.step

theorem CaseRun.mem_codes_images {run : CaseRun} {n m : Nat} (h : run.sends n m = true) :
    n ∈ run.codes ∧ m ∈ run.images := by
  obtain ⟨hfirst, hlast, hstep, rfl⟩ := sends_iff.mp h
  have hsteps : (n - run.span.1) / run.step < (run.span.2 - run.span.1) / run.step + 1 :=
    Nat.lt_succ_of_le (Nat.div_le_div_right (by omega))
  have hdistance : run.step * ((n - run.span.1) / run.step) = n - run.span.1 := by
    have hdivision := Nat.div_add_mod (n - run.span.1) run.step
    omega
  exact ⟨List.mem_range'.mpr ⟨_, hsteps, by omega⟩, List.mem_range'.mpr ⟨_, hsteps, by omega⟩⟩

/-- A set of code points as the bits of a number, in which tables are compared at once. -/
def bits (codes : List Nat) : Nat :=
  codes.foldr (fun n set => 1 <<< n ||| set) 0

theorem testBit_bits (codes : List Nat) (n : Nat) : (bits codes).testBit n = decide (n ∈ codes) := by
  unfold bits
  induction codes with
  | nil => exact Nat.zero_testBit n
  | cons m codes ih =>
    rw [List.foldr_cons, Nat.testBit_or, ih, Nat.one_shiftLeft, Nat.testBit_two_pow]
    simp only [List.mem_cons, Bool.decide_or, eq_comm]

theorem not_mem_of_bits {codes codes' : List Nat} (h : bits codes &&& bits codes' = 0) {n : Nat}
    (hn : n ∈ codes) : n ∉ codes' := by
  intro hn'
  have hboth := Nat.testBit_and (bits codes) (bits codes') n
  rw [h, Nat.zero_testBit, testBit_bits, testBit_bits, decide_eq_true hn, decide_eq_true hn'] at hboth
  exact Bool.false_ne_true hboth

theorem ascending_caseFoldRuns : Ascending CaseRun.span caseFoldRuns := by
  unfold Ascending
  decide +kernel

/-- Nothing that folding maps to is mapped on. -/
theorem images_apart_codes :
    bits (caseFoldRuns.toList.flatMap CaseRun.images) &&&
      bits (caseFoldRuns.toList.flatMap CaseRun.codes) = 0 := by
  decide +kernel

theorem images_after_capitals :
    caseFoldRuns.toList.all (fun run => decide ('Z'.toNat < run.image)) = true := by
  decide +kernel

theorem toLower_eq_self {c : Char} (h : c.toNat < 'A'.toNat ∨ 'Z'.toNat < c.toNat) :
    c.toLower = c := by
  unfold Char.toLower
  refine dif_neg fun hcapital => ?_
  simp only [ge_iff_le, UInt32.le_iff_toNat_le, ← Char.toNat_val] at hcapital h
  omega

theorem toNat_of_isLower {c : Char} (h : c.isLower = true) : 'Z'.toNat < c.toNat ∧ c.toNat < 128 := by
  unfold Char.isLower at h
  simp only [ge_iff_le, UInt32.le_iff_toNat_le, Bool.and_eq_true, decide_eq_true_eq,
    Char.toNat_val] at h
  have ha : 'a'.toNat = 97 := rfl
  have hz : 'z'.toNat = 122 := rfl
  have hZ : 'Z'.toNat = 90 := rfl
  omega

theorem foldChar_of_ascii {c : Char} (h : c.toNat < 128) : foldChar c = c.toLower :=
  if_pos h

theorem foldChar_toLower (c : Char) (h : c.toNat < 128) : foldChar c.toLower = c.toLower := by
  by_cases hsame : c.toLower = c
  · rw [hsame, foldChar_of_ascii h, hsame]
  · obtain ⟨hafter, hascii⟩ := toNat_of_isLower (isLower_toLower_of_ne hsame)
    rw [foldChar_of_ascii hascii, toLower_eq_self (Or.inr hafter)]

/-- What a table maps to has no other form in ASCII, and is not mapped on if the codes and the images
of the table are apart. -/
theorem imageIn?_image {table : Array CaseRun}
    (hapart : bits (table.toList.flatMap CaseRun.images) &&&
      bits (table.toList.flatMap CaseRun.codes) = 0)
    (hcapitals : table.toList.all (fun run => decide ('Z'.toNat < run.image)) = true) {c d : Char}
    (h : imageIn? table c = some d) : d.toLower = d ∧ (d.toNat < 128 ∨ imageIn? table d = none) := by
  obtain ⟨run, hrun, m, hsends, rfl⟩ := exists_sends_of_imageIn? h
  rcases toNat_ofNat_eq m with hm | hzero
  · have hafter := List.all_eq_true.mp hcapitals run (Array.mem_toList_iff.mpr hrun)
    have himage := (CaseRun.sends_iff.mp hsends).2.2.2
    rw [decide_eq_true_eq] at hafter
    refine ⟨toLower_eq_self (Or.inr (by omega)), Or.inr ?_⟩
    cases hagain : imageIn? table (Char.ofNat m) with
    | none => rfl
    | some e =>
      obtain ⟨next, hnext, n, hsends', -⟩ := exists_sends_of_imageIn? hagain
      rw [hm] at hsends'
      have hmapped : m ∈ table.toList.flatMap CaseRun.images :=
        List.mem_flatMap.mpr ⟨run, Array.mem_toList_iff.mpr hrun,
          (CaseRun.mem_codes_images hsends).2⟩
      have hcode : m ∈ table.toList.flatMap CaseRun.codes :=
        List.mem_flatMap.mpr ⟨next, Array.mem_toList_iff.mpr hnext,
          (CaseRun.mem_codes_images hsends').1⟩
      exact absurd hcode (not_mem_of_bits hapart hmapped)
  · have hnull : Char.ofNat m = Char.ofNat 0 := by
      rw [← hzero, Char.ofNat_toNat]
    rw [hnull]
    exact ⟨rfl, Or.inl (by decide)⟩

/-- What a run of folding maps to is left alone. -/
theorem foldChar_image {c d : Char} (h : imageIn? caseFoldRuns c = some d) : foldChar d = d := by
  obtain ⟨hlower, hend⟩ := imageIn?_image images_apart_codes images_after_capitals h
  unfold foldChar
  split_ifs with hascii
  · exact hlower
  · rw [hend.resolve_left hascii, Option.getD_none]

/-- What is folded once is not changed by folding again. -/
theorem foldChar_foldChar (c : Char) : foldChar (foldChar c) = foldChar c := by
  by_cases hascii : c.toNat < 128
  · rw [foldChar_of_ascii hascii, foldChar_toLower c hascii]
  · have hfold : foldChar c = (imageIn? caseFoldRuns c).getD c := if_neg hascii
    cases himage : imageIn? caseFoldRuns c with
    | none =>
      rw [himage, Option.getD_none] at hfold
      rw [hfold, hfold]
    | some d =>
      rw [himage, Option.getD_some] at hfold
      rw [hfold, foldChar_image himage]

/-- The lower-case form of a character folds to what the character folds to. -/
def Steady (c : Char) : Prop :=
  caseFold (lowerChar c) = [foldChar c]

instance (c : Char) : Decidable (Steady c) :=
  inferInstanceAs (Decidable (caseFold (lowerChar c) = [foldChar c]))

/-- The code points of the characters that are not steady. -/
def unsteady : List Nat :=
  [0x130, 0xA7CE, 0xA7D2, 0xA7D4] ++ List.range' 0x16EA0 25

/-- The runs of lower-case forms that are not runs of folding. -/
def unsharedRuns : List CaseRun :=
  [⟨(0x13A0, 0x13EF), 1, 0xAB70⟩, ⟨(0x13F0, 0x13F5), 1, 0x13F8⟩, ⟨(0xA7CC, 0xA7DA), 2, 0xA7CD⟩,
    ⟨(0x16EA0, 0x16EB8), 1, 0x16EBB⟩]

theorem sublist_caseFoldRuns :
    (lowercaseRuns.toList.filter (· ∉ unsharedRuns)).isSublist caseFoldRuns.toList = true := by
  decide +kernel

theorem steady_unsharedRuns :
    ∀ run ∈ unsharedRuns, ∀ n ∈ run.codes, n ∈ unsteady ∨ Steady (Char.ofNat n) := by
  decide +kernel

/-- No character is listed without need. -/
theorem not_steady_unsteady : ∀ n ∈ unsteady, ¬Steady (Char.ofNat n) := by
  decide +kernel

/-- A run of lower-case forms that is a run of folding as well maps a character to what it folds
to. The few other runs are checked character by character. -/
theorem steady_of_imageIn? {c d : Char} (hascii : ¬c.toNat < 128) (hc : c.toNat ∉ unsteady)
    (h : imageIn? lowercaseRuns c = some d) : Steady c := by
  obtain ⟨run, hrun, m, hsends, hd⟩ := exists_sends_of_imageIn? h
  -- most runs are runs of folding as well, and the others are few enough to go through
  by_cases hshared : run ∈ unsharedRuns
  · have hsteady := steady_unsharedRuns run hshared c.toNat (CaseRun.mem_codes_images hsends).1
    rw [Char.ofNat_toNat] at hsteady
    exact hsteady.resolve_left hc
  · have hkept : run ∈ lowercaseRuns.toList.filter (· ∉ unsharedRuns) :=
      List.mem_filter.mpr ⟨Array.mem_toList_iff.mpr hrun, decide_eq_true hshared⟩
    have hfolds : run ∈ caseFoldRuns :=
      Array.mem_toList_iff.mp ((List.isSublist_iff_sublist.mp sublist_caseFoldRuns).subset hkept)
    have hfold : foldChar c = d := by
      rw [foldChar, if_neg hascii, imageIn?_of_sends ascending_caseFoldRuns hfolds hsends, hd]
      rfl
    have hdotted : c ≠ 'İ' := by
      rintro rfl
      exact hc (by decide)
    have hlower : lowerChar c = [d] := by
      unfold lowerChar
      rw [if_neg hascii, if_neg hdotted, h]
    rw [Steady, hlower, ← hfold, caseFold, List.map_singleton, foldChar_foldChar]

/-- Folding sees no difference that lower-casing does not see, but for the listed characters. -/
theorem steady_iff (c : Char) : Steady c ↔ c.toNat ∉ unsteady := by
  constructor
  · intro hsteady hc
    have hnot := not_steady_unsteady c.toNat hc
    rw [Char.ofNat_toNat] at hnot
    exact hnot hsteady
  · intro hc
    by_cases hascii : c.toNat < 128
    · unfold Steady lowerChar
      rw [if_pos hascii, foldChar_of_ascii hascii, caseFold, List.map_singleton,
        foldChar_toLower c hascii]
    · cases himage : imageIn? lowercaseRuns c with
      | some d => exact steady_of_imageIn? hascii hc himage
      | none =>
        have hdotted : c ≠ 'İ' := by
          rintro rfl
          exact hc (by decide)
        unfold Steady lowerChar
        rw [if_neg hascii, if_neg hdotted, himage]
        rfl

theorem foldChar_lowerSigma (before after : Text) :
    foldChar (lowerSigma before after) = foldChar 'Σ' := by
  unfold lowerSigma
  split_ifs <;> decide +kernel

/-- By induction over the text: both forms of a sigma fold alike, so it does not matter which one
stands for a capital sigma. -/
theorem caseFold_lowerFrom {s : Text} (before : Text) (h : ∀ c ∈ s, c.toNat ∉ unsteady) :
    caseFold (lowerFrom before s) = caseFold s := by
  induction s generalizing before with
  | nil => rfl
  | cons c s ih =>
    have hrest := ih (c :: before) fun d hd => h d (List.mem_cons_of_mem c hd)
    have hfirst : caseFold (if c = 'Σ' then [lowerSigma before s] else lowerChar c) =
        [foldChar c] := by
      split_ifs with hsigma
      · rw [hsigma]
        exact congrArg (fun d => [d]) (foldChar_lowerSigma before s)
      · exact (steady_iff c).mpr (h c List.mem_cons_self)
    unfold caseFold at hfirst hrest ⊢
    rw [lowerFrom, List.map_append, hfirst, hrest, List.map_cons]
    rfl

/-- Texts without a listed character that are the same in lower case fold alike. -/
theorem caseFold_eq_of_lowercase_eq {s t : Text} (hs : ∀ c ∈ s, c.toNat ∉ unsteady)
    (ht : ∀ c ∈ t, c.toNat ∉ unsteady) (h : lowercase s = lowercase t) :
    caseFold s = caseFold t := by
  have hfolded := congrArg caseFold h
  rwa [lowercase, lowercase, caseFold_lowerFrom [] hs, caseFold_lowerFrom [] ht] at hfolded

end ChartDialogue.Text
