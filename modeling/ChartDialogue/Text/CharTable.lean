/-!
Sorted tables of character ranges and a search by halving. A found entry covers the
character and stands in the table, which is all that later proofs use.
-/
namespace ChartDialogue.Text

abbrev Span := Nat × Nat

/-- Code points of `span` at every `step` from its start; the first one maps to `image`, the
others to characters at the same distance from it. -/
structure CaseRun where
  span : Span
  step : Nat
  image : Nat

variable {ρ : Type}

/-- Search the entries from `lo` up to `hi`, at most `budget` times halving them. -/
def searchBetween (span : ρ → Span) (table : Array ρ) (n : Nat) : (budget lo hi : Nat) → Option ρ
  | 0, _, _ => none
  | budget + 1, lo, hi =>
    if lo < hi then
      match table[(lo + hi) / 2]? with
      | none => none
      | some entry =>
        if n < (span entry).1 then searchBetween span table n budget lo ((lo + hi) / 2)
        else if (span entry).2 < n then searchBetween span table n budget ((lo + hi) / 2 + 1) hi
        else some entry
    else none

/-- The entry of a sorted table whose range covers the code point `n`. -/
def search (span : ρ → Span) (table : Array ρ) (n : Nat) : Option ρ :=
  searchBetween span table n (table.size + 1) 0 table.size

def covers (table : Array Span) (c : Char) : Bool :=
  (search id table c.toNat).isSome

/-- The character that a sorted table of runs assigns, if it covers the given one. -/
def imageIn? (table : Array CaseRun) (c : Char) : Option Char :=
  match search CaseRun.span table c.toNat with
  | none => none
  | some run =>
    if (c.toNat - run.span.1) % run.step = 0
    then some (Char.ofNat (run.image + (c.toNat - run.span.1)))
    else none

/-- The code point that a run maps to `image`, if there is one. -/
def CaseRun.preimage? (run : CaseRun) (image : Nat) : Option Nat :=
  let n := run.span.1 + (image - run.image)
  if run.image ≤ image ∧ n ≤ run.span.2 ∧ (image - run.image) % run.step = 0 then some n else none

theorem searchBetween_eq_some {span : ρ → Span} {table : Array ρ} {n budget lo hi : Nat} {entry : ρ}
    (h : searchBetween span table n budget lo hi = some entry) :
    entry ∈ table ∧ (span entry).1 ≤ n ∧ n ≤ (span entry).2 := by
  induction budget generalizing lo hi with
  | zero => simp [searchBetween] at h
  | succ budget ih =>
    unfold searchBetween at h
    split at h
    · split at h
      · simp at h
      · rename_i found hget
        split at h
        · exact ih h
        · split at h
          · exact ih h
          · cases h
            exact ⟨Array.mem_of_getElem? hget, by omega, by omega⟩
    · simp at h

theorem search_eq_some {span : ρ → Span} {table : Array ρ} {n : Nat} {entry : ρ}
    (h : search span table n = some entry) :
    entry ∈ table ∧ (span entry).1 ≤ n ∧ n ≤ (span entry).2 :=
  searchBetween_eq_some h

end ChartDialogue.Text
