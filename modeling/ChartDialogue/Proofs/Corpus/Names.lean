import ChartDialogue.Corpus.Writer
import ChartDialogue.Proofs.Text.Reading
import Mathlib.Data.List.Nodup
import Mathlib.Tactic.SplitIfs

/-!
The names that a written flowchart gives to its nodes. A fresh name is not used yet: of the numbers
that are tried one more than there are used names, and different numbers make different names. All
names consist of capital letters and digits.
-/
namespace ChartDialogue.Corpus

open Text

variable {used : List Text} {candidate : Nat → Text} {names : Names}

/-- A search that finds no free number has seen as many used names as it was allowed to try. -/
theorem firstFree_cases (used : List Text) (candidate : Nat → Text) (budget n : Nat) :
    candidate (firstFree used candidate budget n) ∉ used ∨
      firstFree used candidate budget n = n + budget ∧
        ∀ i < budget, candidate (n + i) ∈ used := by
  induction budget generalizing n with
  | zero => exact Or.inr ⟨rfl, fun i hi => absurd hi (Nat.not_lt_zero i)⟩
  | succ budget ih =>
    unfold firstFree
    split
    · rename_i hused
      have hn : candidate n ∈ used := List.contains_iff_mem.mp hused
      rcases ih (n + 1) with hfree | ⟨hlast, htaken⟩
      · exact Or.inl hfree
      · refine Or.inr ⟨by omega, fun i hi => ?_⟩
        cases i with
        | zero => exact hn
        | succ i =>
          have hi' := htaken i (by omega)
          rwa [Nat.add_right_comm] at hi'
    · rename_i hfree
      exact Or.inl fun h => hfree (List.contains_iff_mem.mpr h)

/-- Among one more candidates than there are used names, one is free. -/
theorem firstFree_not_mem (hinj : ∀ m n, candidate m = candidate n → m = n) (n : Nat) :
    candidate (firstFree used candidate used.length n) ∉ used := by
  rcases firstFree_cases used candidate used.length n with hfree | ⟨hlast, htaken⟩
  · exact hfree
  · intro hmem
    rw [hlast] at hmem
    have hnodup : ((List.range (used.length + 1)).map fun i => candidate (n + i)).Nodup := by
      refine List.Nodup.map (fun i j hij => ?_) List.nodup_range
      have hsum := hinj _ _ hij
      omega
    have hsubset : (List.range (used.length + 1)).map (fun i => candidate (n + i)) ⊆ used := by
      intro id hid
      obtain ⟨i, hi, rfl⟩ := List.mem_map.mp hid
      have hle := List.mem_range.mp hi
      by_cases hlt : i < used.length
      · exact htaken i hlt
      · obtain rfl : i = used.length := by omega
        exact hmem
    have hlength := hnodup.length_le_of_subset hsubset
    rw [List.length_map, List.length_range] at hlength
    omega

/-- Different numbers make different names. -/
theorem numbered_injective (base : Text) (m n : Nat) (h : numbered base m = numbered base n) :
    m = n :=
  append_toDigits_inj.mp h

/-- What the names of nodes look like. -/
def IsName (id : Text) : Prop :=
  id ≠ [] ∧ ∀ c ∈ id, c.isUpper = true ∨ c.isDigit = true

theorem toNat_lt_of_isAlphanum {c : Char} (h : c.isAlphanum = true) : c.toNat < 128 := by
  unfold Char.isAlphanum Char.isAlpha Char.isUpper Char.isLower Char.isDigit at h
  simp only [Bool.or_eq_true, Bool.and_eq_true, decide_eq_true_eq, ge_iff_le,
    UInt32.le_iff_toNat_le] at h
  have h9 : '9'.val.toNat = 57 := rfl
  have hZ : 'Z'.val.toNat = 90 := rfl
  have hz : 'z'.val.toNat = 122 := rfl
  rw [Char.toNat]
  omega

theorem isUpper_toUpper {c : Char} (h : c.isAlpha = true) : c.toUpper.isUpper = true := by
  have hascii : ∀ n < 128, (Char.ofNat n).isAlpha = true →
      (Char.ofNat n).toUpper.isUpper = true := by decide
  have hc := toNat_lt_of_isAlphanum (by rw [Char.isAlphanum, h, Bool.true_or])
  have hofNat : Char.ofNat c.toNat = c := Char.ofNat_toNat c
  rw [← hofNat]
  exact hascii c.toNat hc (by rw [hofNat]; exact h)

theorem isUpper_of_mem_initials {text : Text} {c : Char} (h : c ∈ initials text) :
    c.isUpper = true := by
  obtain ⟨d, hd, rfl⟩ := List.mem_map.mp h
  have hletter := List.mem_filter.mp (List.mem_of_mem_take hd)
  exact isUpper_toUpper hletter.2

theorem isName_of_isUpper {base : Text} (hne : base ≠ []) (h : ∀ c ∈ base, c.isUpper = true) :
    IsName base :=
  ⟨hne, fun c hc => Or.inl (h c hc)⟩

theorem isName_numbered {base : Text} (hne : base ≠ []) (h : ∀ c ∈ base, c.isUpper = true)
    (n : Nat) : IsName (numbered base n) := by
  refine ⟨fun hnil => hne (List.append_eq_nil_iff.mp hnil).1, fun c hc => ?_⟩
  rcases List.mem_append.mp hc with hc | hc
  · exact Or.inl (h c hc)
  · exact Or.inr (Nat.isDigit_of_mem_toDigits (by decide) (by decide) hc)

/-- The names in `ids` are given one after another: they are new and differ, and become used. -/
structure Names.Gives (names : Names) (ids : List Text) (names' : Names) : Prop where
  isName : ∀ id ∈ ids, IsName id
  nodup : ids.Nodup
  new : ∀ id ∈ ids, id ∉ names.used
  used : ∀ id, id ∈ names'.used ↔ id ∈ ids ∨ id ∈ names.used

namespace Names

theorem gives_nil (names : Names) : names.Gives [] names where
  isName := by simp
  nodup := List.nodup_nil
  new := by simp
  used := by simp

/-- Names given after others differ from them, because those are used. -/
theorem Gives.append {names' names'' : Names} {ids ids' : List Text} (h : names.Gives ids names')
    (h' : names'.Gives ids' names'') : names.Gives (ids ++ ids') names'' where
  isName := by
    intro id hid
    exact (List.mem_append.mp hid).elim (h.isName id) (h'.isName id)
  nodup := by
    refine List.nodup_append.mpr ⟨h.nodup, h'.nodup, ?_⟩
    rintro id hid _ hid' rfl
    exact h'.new id hid' ((h.used id).mpr (Or.inl hid))
  new := by
    intro id hid
    rcases List.mem_append.mp hid with hid | hid
    · exact h.new id hid
    · exact fun hused => h'.new id hid ((h.used id).mpr (Or.inr hused))
  used := by
    intro id
    rw [h'.used, h.used, List.mem_append, or_assoc, or_left_comm]

/-- In all three ways a fresh name is new. -/
theorem gives_fresh (names : Names) (text : Text) :
    names.Gives [(names.fresh text).1] (names.fresh text).2 := by
  have hcapital : ∀ c ∈ ['N'], c.isUpper = true := List.all_eq_true.mp (by decide)
  have hletters : ∀ c ∈ initials text, c.isUpper = true := fun c hc => isUpper_of_mem_initials hc
  have hspec : IsName (names.fresh text).1 ∧ (names.fresh text).1 ∉ names.used ∧
      (names.fresh text).2.used = (names.fresh text).1 :: names.used := by
    unfold fresh
    dsimp only
    split_ifs with hempty hfree
    · refine ⟨isName_numbered (List.cons_ne_nil _ _) hcapital _, ?_, rfl⟩
      exact firstFree_not_mem (numbered_injective ['N']) _
    · refine ⟨isName_of_isUpper ?_ hletters, ?_, rfl⟩
      · exact fun h => hempty (List.isEmpty_iff.mpr h)
      · simpa using hfree
    · refine ⟨isName_numbered ?_ hletters _, ?_, rfl⟩
      · exact fun h => hempty (List.isEmpty_iff.mpr h)
      · exact firstFree_not_mem (numbered_injective (initials text)) _
  obtain ⟨hname, hnew, hused⟩ := hspec
  refine ⟨?_, List.nodup_singleton _, ?_, ?_⟩
  · rintro id hid
    rwa [List.mem_singleton.mp hid]
  · rintro id hid
    rwa [List.mem_singleton.mp hid]
  · intro id
    rw [hused, List.mem_cons, List.mem_singleton]

/-- Names given one after another differ. -/
theorem gives_freshAll (names : Names) (texts : List Text) :
    names.Gives (names.freshAll texts).1 (names.freshAll texts).2 := by
  induction texts generalizing names with
  | nil => exact gives_nil names
  | cons text texts ih => exact (gives_fresh names text).append (ih (names.fresh text).2)

theorem length_freshAll (names : Names) (texts : List Text) :
    (names.freshAll texts).1.length = texts.length := by
  induction texts generalizing names with
  | nil => rfl
  | cons text texts ih => exact congrArg (· + 1) (ih (names.fresh text).2)

end Names

def NamedCategory.nodes (c : NamedCategory) : List (Text × Text) :=
  c.pattern :: c.templates

def NamedCategory.texts (c : NamedCategory) : Text × List Text :=
  (c.pattern.2, c.templates.map Prod.snd)

/-- No two nodes of the categories have the same name. -/
theorem exists_gives_nameCategories (names : Names) (categories : List Category) :
    ∃ names', names.Gives
      (((nameCategories names categories).flatMap NamedCategory.nodes).map Prod.fst) names' := by
  induction categories generalizing names with
  | nil => exact ⟨names, names.gives_nil⟩
  | cons c categories ih =>
    have hpattern := names.gives_fresh c.pattern
    have htemplates := (names.fresh c.pattern).2.gives_freshAll c.templates
    obtain ⟨names', hrest⟩ := ih ((names.fresh c.pattern).2.freshAll c.templates).2
    refine ⟨names', ?_⟩
    have hids := (hpattern.append htemplates).append hrest
    have hlength := (names.fresh c.pattern).2.length_freshAll c.templates
    have hzip := List.map_fst_zip (Nat.le_of_eq hlength)
    rw [nameCategories, List.flatMap_cons, List.map_append, NamedCategory.nodes, List.map_cons,
      hzip]
    exact hids

/-- Naming the nodes does not touch their texts. -/
theorem texts_nameCategories (names : Names) (categories : List Category) :
    (nameCategories names categories).map NamedCategory.texts =
      categories.map fun c => (c.pattern, c.templates) := by
  induction categories generalizing names with
  | nil => rfl
  | cons c categories ih =>
    have hrest := ih ((names.fresh c.pattern).2.freshAll c.templates).2
    have hlength := (names.fresh c.pattern).2.length_freshAll c.templates
    have hzip := List.map_snd_zip (Nat.le_of_eq hlength.symm)
    rw [nameCategories, List.map_cons, List.map_cons, hrest, NamedCategory.texts, hzip]

end ChartDialogue.Corpus
