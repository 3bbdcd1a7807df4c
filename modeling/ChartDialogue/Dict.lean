/-!
Finite maps that keep their keys in the order in which they were first given.
A map is seen through `get?`; each operation has one equation for it.
-/
namespace ChartDialogue

variable {κ ν : Type} [DecidableEq κ]

/-- Keys with their values. Only the first entry of a key counts. -/
structure Dict (κ ν : Type) where
  entries : List (κ × ν)
  deriving DecidableEq

namespace Dict

def empty : Dict κ ν := ⟨[]⟩

def size (d : Dict κ ν) : Nat := d.entries.length

def get? (d : Dict κ ν) (k : κ) : Option ν :=
  d.entries.lookup k

def contains (d : Dict κ ν) (k : κ) : Bool :=
  (d.get? k).isSome

/-- Give `k` the value `v` in place, or at the end when it is new. -/
def setIn (k : κ) (v : ν) : List (κ × ν) → List (κ × ν)
  | [] => [(k, v)]
  | (j, w) :: rest => if j = k then (j, v) :: rest else (j, w) :: setIn k v rest

def set (d : Dict κ ν) (k : κ) (v : ν) : Dict κ ν :=
  ⟨setIn k v d.entries⟩

def setAll (d : Dict κ ν) (pairs : List (κ × ν)) : Dict κ ν :=
  pairs.foldl (fun d p => d.set p.1 p.2) d

def erase (d : Dict κ ν) (k : κ) : Dict κ ν :=
  ⟨d.entries.filter fun p => p.1 ≠ k⟩

/-- The map of a list of pairs, where the last value of a key wins. -/
def ofList (pairs : List (κ × ν)) : Dict κ ν :=
  empty.setAll pairs

theorem get?_set_self (d : Dict κ ν) (k : κ) (v : ν) : (d.set k v).get? k = some v := by
  obtain ⟨entries⟩ := d
  simp only [get?, set]
  induction entries with
  | nil => simp [setIn]
  | cons p rest ih =>
    obtain ⟨j, w⟩ := p
    by_cases h : j = k
    · simp [setIn, h]
    · have hk : (k == j) = false := by simpa using Ne.symm h
      simp [setIn, h, List.lookup_cons, hk, ih]

theorem get?_set_of_ne (d : Dict κ ν) {k j : κ} (v : ν) (h : j ≠ k) :
    (d.set k v).get? j = d.get? j := by
  obtain ⟨entries⟩ := d
  simp only [get?, set]
  have hjk : (j == k) = false := by simpa using h
  induction entries with
  | nil => simp [setIn, List.lookup_cons, hjk]
  | cons p rest ih =>
    obtain ⟨i, w⟩ := p
    by_cases hi : i = k
    · simp [setIn, hi, List.lookup_cons, hjk]
    · simp [setIn, hi, List.lookup_cons, ih]

/-- By induction over the pairs: none of them gives `k` a value. -/
theorem get?_setAll_of_not_mem (d : Dict κ ν) {k : κ} {pairs : List (κ × ν)}
    (h : k ∉ pairs.map Prod.fst) : (d.setAll pairs).get? k = d.get? k := by
  induction pairs generalizing d with
  | nil => rfl
  | cons p pairs ih =>
    rw [List.map_cons, List.mem_cons, not_or] at h
    rw [setAll, List.foldl_cons, ← setAll, ih _ h.2, get?_set_of_ne d p.2 h.1]

/-- Where no key is given two values, each has the value that it is given. -/
theorem get?_setAll_of_mem (d : Dict κ ν) {k : κ} {v : ν} {pairs : List (κ × ν)}
    (hnodup : (pairs.map Prod.fst).Nodup) (h : (k, v) ∈ pairs) :
    (d.setAll pairs).get? k = some v := by
  induction pairs generalizing d with
  | nil => exact absurd h List.not_mem_nil
  | cons p pairs ih =>
    rw [List.map_cons, List.nodup_cons] at hnodup
    rw [setAll, List.foldl_cons, ← setAll]
    rcases List.mem_cons.mp h with rfl | h
    · rw [get?_setAll_of_not_mem _ hnodup.1, get?_set_self]
    · exact ih _ hnodup.2 h

theorem get?_erase_self (d : Dict κ ν) (k : κ) : (d.erase k).get? k = none := by
  obtain ⟨entries⟩ := d
  simp only [get?, erase]
  induction entries with
  | nil => rfl
  | cons p rest ih =>
    obtain ⟨j, w⟩ := p
    by_cases h : j = k
    · simpa [h] using ih
    · have hk : (k == j) = false := by simpa using Ne.symm h
      simpa [h, List.lookup_cons, hk] using ih

theorem get?_erase_of_ne (d : Dict κ ν) {k j : κ} (h : j ≠ k) :
    (d.erase k).get? j = d.get? j := by
  obtain ⟨entries⟩ := d
  simp only [get?, erase]
  have hjk : (j == k) = false := by simpa using h
  induction entries with
  | nil => rfl
  | cons p rest ih =>
    obtain ⟨i, w⟩ := p
    by_cases hi : i = k
    · simpa [hi, List.lookup_cons, hjk] using ih
    · by_cases hj : j = i
      · simp [hi, hj]
      · have hji : (j == i) = false := by simpa using hj
        simpa [hi, List.lookup_cons, hji] using ih

end Dict
end ChartDialogue
