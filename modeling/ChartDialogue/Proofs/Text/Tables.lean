import ChartDialogue.Text.CharTable
import Mathlib.Data.List.Chain
import Mathlib.Tactic.SplitIfs

/-!
Tables of ranges in ascending order. The search by halving finds the entry that covers a code point
wherever there is one, so a table of runs does to a character what the run that covers it does.
-/
namespace ChartDialogue.Text

variable {ρ : Type} {span : ρ → Span}

/-- The range of one entry lies before that of another. -/
structure Before (span : ρ → Span) (a b : ρ) : Prop where
  left : (span a).1 ≤ (span a).2
  gap : (span a).2 < (span b).1
  right : (span b).1 ≤ (span b).2

instance (a b : ρ) : Decidable (Before span a b) :=
  decidable_of_iff ((span a).1 ≤ (span a).2 ∧ (span a).2 < (span b).1 ∧ (span b).1 ≤ (span b).2)
    ⟨fun h => ⟨h.1, h.2.1, h.2.2⟩, fun h => ⟨h.left, h.gap, h.right⟩⟩

instance : Trans (Before span) (Before span) (Before span) where
  trans {a b c} hab hbc := by
    have := hab.gap
    have := hbc.left
    have := hbc.gap
    exact ⟨hab.left, by omega, hbc.right⟩

/-- The entries of a table are in ascending order. -/
def Ascending (span : ρ → Span) (table : Array ρ) : Prop :=
  table.toList.IsChain (Before span)

theorem Ascending.before {table : Array ρ} (h : Ascending span table) {i j : Nat} {a b : ρ}
    (hi : table[i]? = some a) (hj : table[j]? = some b) (hij : i < j) : Before span a b := by
  have hpairwise := List.isChain_iff_pairwise.mp h
  rw [← Array.getElem?_toList] at hi hj
  obtain ⟨hi, rfl⟩ := List.getElem?_eq_some_iff.mp hi
  obtain ⟨hj, rfl⟩ := List.getElem?_eq_some_iff.mp hj
  exact List.pairwise_iff_getElem.mp hpairwise i j _ _ hij

/-- By induction on the budget: the half that is kept holds the entry. -/
theorem searchBetween_of_covers {table : Array ρ} (h : Ascending span table) {n k : Nat} {entry : ρ}
    (hk : table[k]? = some entry) (hfirst : (span entry).1 ≤ n) (hlast : n ≤ (span entry).2)
    {budget lo hi : Nat} (hlo : lo ≤ k) (hhi : k < hi) (hsize : hi ≤ table.size)
    (hbudget : hi - lo < budget) : searchBetween span table n budget lo hi = some entry := by
  induction budget generalizing lo hi with
  | zero => omega
  | succ budget ih =>
    have hmid : (lo + hi) / 2 < table.size := by omega
    have hmiddle := Array.getElem?_eq_getElem hmid
    unfold searchBetween
    rw [if_pos (by omega), hmiddle]
    dsimp only
    rcases Nat.lt_trichotomy k ((lo + hi) / 2) with hlt | heq | hgt
    · have hbefore := h.before hk hmiddle hlt
      have hgap := hbefore.gap
      rw [if_pos (by omega)]
      exact ih hlo hlt (by omega) (by omega)
    · have hsame : table[(lo + hi) / 2] = entry :=
        Option.some.inj (hmiddle.symm.trans (heq ▸ hk))
      rw [hsame, if_neg (by omega), if_neg (by omega)]
    · have hbefore := h.before hmiddle hk hgt
      have hgap := hbefore.gap
      have hleft := hbefore.left
      rw [if_neg (by omega), if_pos (by omega)]
      exact ih (by omega) hhi hsize (by omega)

/-- In a table in order the search finds the entry that covers a code point. -/
theorem search_of_covers {table : Array ρ} (h : Ascending span table) {n : Nat} {entry : ρ}
    (hmem : entry ∈ table) (hfirst : (span entry).1 ≤ n) (hlast : n ≤ (span entry).2) :
    search span table n = some entry := by
  obtain ⟨k, hk⟩ := Array.mem_iff_getElem?.mp hmem
  have hsize : k < table.size := (Array.getElem?_eq_some_iff.mp hk).1
  exact searchBetween_of_covers h hk hfirst hlast (Nat.zero_le k) hsize (Nat.le_refl _) (by omega)

/-- Whether a run maps one code point to another. -/
def CaseRun.sends (run : CaseRun) (n m : Nat) : Bool :=
  decide (run.span.1 ≤ n) && decide (n ≤ run.span.2) && (n - run.span.1) % run.step == 0
    && run.image + (n - run.span.1) == m

theorem CaseRun.sends_iff {run : CaseRun} {n m : Nat} :
    run.sends n m = true ↔ run.span.1 ≤ n ∧ n ≤ run.span.2 ∧ (n - run.span.1) % run.step = 0 ∧
      run.image + (n - run.span.1) = m := by
  simp only [sends, Bool.and_eq_true, decide_eq_true_eq, beq_iff_eq, and_assoc]

/-- The run of a table that maps a character gives its image. -/
theorem imageIn?_of_sends {table : Array CaseRun} (h : Ascending CaseRun.span table) {run : CaseRun}
    (hmem : run ∈ table) {c : Char} {m : Nat} (hsends : run.sends c.toNat m = true) :
    imageIn? table c = some (Char.ofNat m) := by
  obtain ⟨hfirst, hlast, hstep, rfl⟩ := CaseRun.sends_iff.mp hsends
  unfold imageIn?
  rw [search_of_covers h hmem hfirst hlast]
  exact if_pos hstep

/-- An image comes from a run that maps the character to it. -/
theorem exists_sends_of_imageIn? {table : Array CaseRun} {c d : Char}
    (h : imageIn? table c = some d) :
    ∃ run ∈ table, ∃ m, run.sends c.toNat m = true ∧ d = Char.ofNat m := by
  unfold imageIn? at h
  split at h
  · exact absurd h.symm (Option.some_ne_none _)
  · rename_i run hrun
    obtain ⟨hmem, hfirst, hlast⟩ := search_eq_some hrun
    split_ifs at h with hstep
    exact ⟨run, hmem, _, CaseRun.sends_iff.mpr ⟨hfirst, hlast, hstep, rfl⟩,
      (Option.some.inj h).symm⟩

end ChartDialogue.Text
