import ChartDialogue.Dict
import Mathlib.Data.List.Induction
import Mathlib.Data.List.Nodup
import Mathlib.Tactic.SplitIfs

/-!
Lists without repetitions. To keep the first occurrence of each element is to list things in the
order in which they were first met: a new one comes at the end, and one that was met before changes
nothing. A map in which no key stands twice is determined up to the order of its keys by what it has
under each of them, and giving values and erasing keep it so.
-/
namespace ChartDialogue

section Lists

variable {α : Type} [BEq α] [LawfulBEq α]

theorem eraseDups_concat (met : List α) (a : α) :
    (met ++ [a]).eraseDups = if a ∈ met then met.eraseDups else met.eraseDups ++ [a] := by
  rw [List.eraseDups_append, List.removeAll, List.filter_singleton, List.elem_eq_mem]
  split_ifs with ha
  · simp [ha]
  · simp [ha, List.eraseDups_cons]

theorem nodup_eraseDups (met : List α) : met.eraseDups.Nodup := by
  induction met using List.reverseRecOn with
  | nil => exact List.nodup_nil
  | append_singleton met a ih =>
    rw [eraseDups_concat]
    split_ifs with ha
    · exact ih
    · rw [← List.mem_eraseDups] at ha
      exact List.nodup_append'.mpr
        ⟨ih, List.nodup_singleton a, fun b hb hba => ha (List.mem_singleton.mp hba ▸ hb)⟩

theorem lookup_of_mem {β : Type} {pairs : List (α × β)} {a : α} {b : β}
    (hnodup : (pairs.map Prod.fst).Nodup) (h : (a, b) ∈ pairs) : pairs.lookup a = some b := by
  induction pairs with
  | nil => exact absurd h List.not_mem_nil
  | cons p pairs ih =>
    rw [List.map_cons, List.nodup_cons] at hnodup
    rcases List.mem_cons.mp h with rfl | h
    · exact List.lookup_cons_self
    · have hne : a ≠ p.1 := by
        rintro rfl
        exact hnodup.1 (List.mem_map.mpr ⟨_, h, rfl⟩)
      rw [List.lookup_cons, beq_false_of_ne hne]
      exact ih hnodup.2 h

end Lists

namespace Dict

variable {κ ν : Type} [DecidableEq κ] {d d' : Dict κ ν}

/-- No key of the map stands twice in it. -/
def Distinct (d : Dict κ ν) : Prop :=
  (d.entries.map Prod.fst).Nodup

/-- Setting a value adds the key at the end or leaves the keys as they are. -/
theorem map_fst_setIn (entries : List (κ × ν)) (k : κ) (v : ν) :
    (setIn k v entries).map Prod.fst =
      if k ∈ entries.map Prod.fst then entries.map Prod.fst else entries.map Prod.fst ++ [k] := by
  induction entries with
  | nil => rfl
  | cons p entries ih =>
    obtain ⟨j, w⟩ := p
    by_cases hj : j = k
    · simp [setIn, hj]
    · rw [setIn, if_neg hj, List.map_cons, ih, List.map_cons]
      by_cases hk : k ∈ entries.map Prod.fst
      · rw [if_pos hk, if_pos (List.mem_cons_of_mem j hk)]
      · rw [if_neg hk, if_neg fun h => (List.mem_cons.mp h).elim (Ne.symm hj) hk]
        rfl

theorem Distinct.set (h : d.Distinct) (k : κ) (v : ν) : (d.set k v).Distinct := by
  rw [Distinct, Dict.set, map_fst_setIn]
  split_ifs with hk
  · exact h
  · rw [← List.concat_eq_append]
    exact List.Nodup.concat hk h

/-- A list of pairs gives its keys their values one after the other. -/
theorem ofList_concat (pairs : List (κ × ν)) (p : κ × ν) :
    ofList (pairs ++ [p]) = (ofList pairs).set p.1 p.2 := by
  rw [ofList, setAll, List.foldl_append]
  rfl

theorem distinct_ofList (pairs : List (κ × ν)) : (ofList pairs).Distinct := by
  induction pairs using List.reverseRecOn with
  | nil => exact List.nodup_nil
  | append_singleton pairs p ih =>
    rw [ofList_concat]
    exact ih.set p.1 p.2

theorem setIn_of_new {entries : List (κ × ν)} {k : κ} (v : ν) (h : k ∉ entries.map Prod.fst) :
    setIn k v entries = entries ++ [(k, v)] := by
  induction entries with
  | nil => rfl
  | cons p entries ih =>
    rw [List.map_cons, List.mem_cons, not_or] at h
    rw [setIn, if_neg (Ne.symm h.1), ih h.2, List.cons_append]

/-- Pairs in which no key stands twice are the entries of their map. -/
theorem ofList_of_nodup {pairs : List (κ × ν)} (h : (pairs.map Prod.fst).Nodup) :
    ofList pairs = ⟨pairs⟩ := by
  induction pairs using List.reverseRecOn with
  | nil => rfl
  | append_singleton pairs p ih =>
    rw [List.map_append, List.nodup_append'] at h
    have hnew : p.1 ∉ pairs.map Prod.fst := fun hmem => h.2.2 hmem List.mem_cons_self
    rw [ofList_concat, ih h.1, set, setIn_of_new p.2 hnew]

theorem Distinct.erase (h : d.Distinct) (k : κ) : (d.erase k).Distinct :=
  h.sublist (List.filter_sublist.map Prod.fst)

/-- Without a repeated key, looking one up finds every entry. -/
theorem get?_eq_some_iff (h : d.Distinct) {k : κ} {v : ν} :
    d.get? k = some v ↔ (k, v) ∈ d.entries := by
  refine ⟨fun hget => ?_, lookup_of_mem h⟩
  obtain ⟨before, later, hentries, -⟩ := List.lookup_eq_some_iff.mp hget
  rw [hentries]
  exact List.mem_append_right before List.mem_cons_self

omit [DecidableEq κ] in
theorem Distinct.of_perm (h : d.Distinct) (hperm : d'.entries.Perm d.entries) : d'.Distinct :=
  (hperm.map Prod.fst).nodup_iff.mpr h

/-- What stands under a key does not depend on the order of the entries. -/
theorem get?_of_perm (h : d.Distinct) (hperm : d'.entries.Perm d.entries) (k : κ) :
    d'.get? k = d.get? k := by
  refine Option.ext fun v => ?_
  rw [get?_eq_some_iff (h.of_perm hperm), get?_eq_some_iff h, hperm.mem_iff]

/-- The order of the entries does not count when a map is read again. -/
theorem get?_ofList_of_perm (h : d.Distinct) {pairs : List (κ × ν)} (hperm : pairs.Perm d.entries)
    (k : κ) : (ofList pairs).get? k = d.get? k := by
  have hpairs : (⟨pairs⟩ : Dict κ ν).Distinct := h.of_perm hperm
  rw [ofList_of_nodup hpairs]
  exact get?_of_perm h hperm k

theorem mem_map_fst_iff (h : d.Distinct) {k : κ} :
    k ∈ d.entries.map Prod.fst ↔ ∃ v, d.get? k = some v := by
  rw [List.mem_map]
  constructor
  · rintro ⟨⟨k, v⟩, hmem, rfl⟩
    exact ⟨v, (get?_eq_some_iff h).mpr hmem⟩
  · rintro ⟨v, hget⟩
    exact ⟨(k, v), (get?_eq_some_iff h).mp hget, rfl⟩

theorem size_eq (h : d.Distinct) (h' : d'.Distinct) (hget : ∀ k, d.get? k = d'.get? k) :
    d.size = d'.size := by
  have hkeys : (d.entries.map Prod.fst).Perm (d'.entries.map Prod.fst) := by
    refine (List.perm_ext_iff_of_nodup h h').mpr fun k => ?_
    rw [mem_map_fst_iff h, mem_map_fst_iff h', hget]
  have hlength := hkeys.length_eq
  rwa [List.length_map, List.length_map] at hlength

end Dict
end ChartDialogue
