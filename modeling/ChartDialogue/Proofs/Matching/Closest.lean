import ChartDialogue.Matching.Similarity
import Mathlib.Data.List.Basic
import Mathlib.Tactic.SplitIfs

/-!
The most similar candidate. It is less similar to no candidate, and more similar than all that stand
before it; it is taken if its similarity reaches the threshold.
-/
namespace ChartDialogue.Matching

variable {α : Type}

/-- An element of a list with the greatest score, and the first such. -/
def IsFirstGreatest (score : α → Nat) (l : List α) (a : α) : Prop :=
  ∃ before after, l = before ++ a :: after ∧
    (∀ b ∈ before, score b < score a) ∧ ∀ b ∈ after, score b ≤ score a

theorem IsFirstGreatest.mem {score : α → Nat} {l : List α} {a : α}
    (h : IsFirstGreatest score l a) : a ∈ l := by
  obtain ⟨before, after, rfl, -⟩ := h
  exact List.mem_append_right before List.mem_cons_self

theorem IsFirstGreatest.le {score : α → Nat} {l : List α} {a b : α}
    (h : IsFirstGreatest score l a) (hb : b ∈ l) : score b ≤ score a := by
  obtain ⟨before, after, rfl, hbefore, hafter⟩ := h
  rcases List.mem_append.mp hb with hb | hb
  · exact Nat.le_of_lt (hbefore b hb)
  · rcases List.mem_cons.mp hb with rfl | hb
    · exact Nat.le_refl _
    · exact hafter b hb

theorem firstMax?_eq_none {l : List Nat} (h : firstMax? l = none) : l = [] := by
  cases l with
  | nil => rfl
  | cons n rest =>
    unfold firstMax? at h
    split at h
    · exact absurd h (Option.some_ne_none _)
    · split_ifs at h

/-- Before the first greatest number all are smaller, and behind it none is greater. -/
theorem firstMax?_eq_some {l : List Nat} {i m : Nat} (h : firstMax? l = some (i, m)) :
    ∃ before after, l = before ++ m :: after ∧ before.length = i ∧
      (∀ n ∈ before, n < m) ∧ ∀ n ∈ after, n ≤ m := by
  induction l generalizing i m with
  | nil => exact absurd h.symm (Option.some_ne_none _)
  | cons n rest ih =>
    unfold firstMax? at h
    split at h
    · rename_i hrest
      obtain ⟨rfl, rfl⟩ := Prod.mk.inj (Option.some.inj h)
      rw [firstMax?_eq_none hrest]
      exact ⟨[], [], rfl, rfl, by simp, by simp⟩
    · rename_i j k hfound
      obtain ⟨before, after, hsplit, hlength, hbefore, hafter⟩ := ih hfound
      split_ifs at h with hlt
      · obtain ⟨rfl, rfl⟩ := Prod.mk.inj (Option.some.inj h)
        refine ⟨n :: before, after, by rw [hsplit]; rfl, by rw [← hlength]; rfl, ?_, hafter⟩
        exact List.forall_mem_cons.mpr ⟨hlt, hbefore⟩
      · obtain ⟨rfl, rfl⟩ := Prod.mk.inj (Option.some.inj h)
        have hrest : IsFirstGreatest id rest k := ⟨before, after, hsplit, hbefore, hafter⟩
        exact ⟨[], rest, rfl, rfl, by simp, fun p hp =>
          Nat.le_trans (hrest.le hp) (Nat.not_lt.mp hlt)⟩

theorem firstMax?_append {before after : List Nat} {m : Nat} (hbefore : ∀ n ∈ before, n < m)
    (hafter : ∀ n ∈ after, n ≤ m) :
    firstMax? (before ++ m :: after) = some (before.length, m) := by
  induction before with
  | nil =>
    rw [List.nil_append, firstMax?]
    split
    · rfl
    · rename_i i k hfound
      obtain ⟨front, back, hsplit, -⟩ := firstMax?_eq_some hfound
      have hk := hafter k (by simp [hsplit])
      rw [if_neg (by omega)]
      rfl
  | cons n before ih =>
    rw [List.forall_mem_cons] at hbefore
    rw [List.cons_append, firstMax?, ih hbefore.2]
    simp [hbefore.1]

/-- Where there are candidates, the first of the most similar ones is chosen if it is similar
enough, and none if it is not. -/
theorem closest?_cases (input : Text) (f : α → Text) {l : List α} (hl : l ≠ []) (threshold : Nat) :
    ∃ a, IsFirstGreatest (fun b => similarity input (f b)) l a ∧
      (closest? input (l.map f) threshold).bind (fun i => l[i]?) =
        if threshold ≤ similarity input (f a) then some a else none := by
  cases hmax : firstMax? ((l.map f).map (similarity input)) with
  | none =>
    have hnil := firstMax?_eq_none hmax
    rw [List.map_eq_nil_iff, List.map_eq_nil_iff] at hnil
    exact absurd hnil hl
  | some found =>
    obtain ⟨i, score⟩ := found
    obtain ⟨before, after, hsplit, rfl, hbefore, hafter⟩ := firstMax?_eq_some hmax
    rw [List.map_map] at hsplit
    obtain ⟨front, back, rfl, rfl, hback⟩ := List.map_eq_append_iff.mp hsplit
    obtain ⟨a, rest, rfl, rfl, rfl⟩ := List.map_eq_cons_iff.mp hback
    refine ⟨a, ⟨front, rest, rfl, ?_, ?_⟩, ?_⟩
    · exact List.forall_mem_map.mp hbefore
    · exact List.forall_mem_map.mp hafter
    · unfold closest?
      rw [hmax, List.length_map]
      dsimp only [Function.comp_apply]
      split_ifs
      · rw [Option.bind_some, List.getElem?_append_right (Nat.le_refl _), Nat.sub_self]
        rfl
      · rfl

end ChartDialogue.Matching
