import ChartDialogue.Matching.Similarity
import Mathlib.Order.Bounds.Defs
import Mathlib.Data.List.Basic

/-!
The edit distance of two texts is the least number of characters to insert, delete or replace on
the way from one text to the other. It is also the distance that is defined by recursion on the
first characters of both texts. The rows of the computation hold that distance for the beginnings
of the texts read backwards, which makes no difference, since edits can be read backwards too.
-/
namespace ChartDialogue.Matching

variable {s t : Text} {n : Nat}

/-- One character of a text is inserted, deleted or replaced. -/
inductive OneEdit : Text → Text → Prop where
  | insert (before after : Text) (c : Char) : OneEdit (before ++ after) (before ++ c :: after)
  | delete (before after : Text) (c : Char) : OneEdit (before ++ c :: after) (before ++ after)
  | replace (before after : Text) (c d : Char) :
    OneEdit (before ++ c :: after) (before ++ d :: after)

/-- A number of edits, one after another, lead from one text to another. -/
inductive EditsTo : Nat → Text → Text → Prop where
  | none (s : Text) : EditsTo 0 s s
  | edit {n : Nat} {s t u : Text} : OneEdit s t → EditsTo n t u → EditsTo (n + 1) s u

/-- The distance of two texts by recursion on their first characters. -/
def distance : Text → Text → Nat
  | [], t => t.length
  | _ :: s, [] => s.length + 1
  | c :: s, d :: t =>
    min (min (distance s t + if c = d then 0 else 1) (distance s (d :: t) + 1))
      (distance (c :: s) t + 1)

section Recursion

theorem distance_nil_left (t : Text) : distance [] t = t.length := by
  rw [distance]

theorem distance_nil_right (s : Text) : distance s [] = s.length := by
  cases s <;> simp [distance]

theorem distance_cons_cons (c d : Char) (s t : Text) :
    distance (c :: s) (d :: t) =
      min (min (distance s t + if c = d then 0 else 1) (distance s (d :: t) + 1))
        (distance (c :: s) t + 1) := by
  rw [distance]

/-- Which of the two first characters goes, or whether both do. -/
theorem distance_cases (c d : Char) (s t : Text) :
    distance (c :: s) (d :: t) = distance s t + (if c = d then 0 else 1) ∨
      distance (c :: s) (d :: t) = distance s (d :: t) + 1 ∨
      distance (c :: s) (d :: t) = distance (c :: s) t + 1 := by
  rw [distance_cons_cons]
  omega

theorem distance_cons_cons_le (c d : Char) (s t : Text) :
    distance (c :: s) (d :: t) ≤ distance s t + if c = d then 0 else 1 := by
  rw [distance_cons_cons]
  omega

theorem distance_cons_left_le (c : Char) (s t : Text) :
    distance (c :: s) t ≤ distance s t + 1 := by
  cases t with
  | nil => simp [distance_nil_right]
  | cons d t =>
    rw [distance_cons_cons]
    omega

theorem distance_cons_right_le (d : Char) (s t : Text) :
    distance s (d :: t) ≤ distance s t + 1 := by
  cases s with
  | nil => simp [distance_nil_left]
  | cons c s =>
    rw [distance_cons_cons]
    omega

theorem distance_self (s : Text) : distance s s = 0 := by
  induction s with
  | nil => simp [distance_nil_left]
  | cons c s ih =>
    have hboth := distance_cons_cons_le c c s s
    simp only [ih, if_true] at hboth
    omega

/-- The distance is the same both ways. -/
theorem distance_comm (s t : Text) : distance s t = distance t s := by
  fun_induction distance s t with
  | case1 t => exact (distance_nil_right t).symm
  | case2 c s => exact (distance_nil_left (c :: s)).symm
  | case3 c s d t ihboth ihleft ihright =>
    have hcost : (if c = d then 0 else 1) = if d = c then 0 else 1 := by
      simp only [eq_comm]
    rw [distance_cons_cons, ihboth, ihleft, ihright, hcost]
    omega

/-- All characters of the longer text are enough: those of the shorter one are replaced, and the
others are inserted or deleted. -/
theorem distance_le_max (s t : Text) : distance s t ≤ max s.length t.length := by
  fun_induction distance s t with
  | case1 t => omega
  | case2 c s => simp
  | case3 c s d t ihboth ihleft ihright =>
    have hcost : (if c = d then 0 else 1) ≤ 1 := by split <;> omega
    simp only [List.length_cons]
    omega

/-- An edit makes a text shorter by one character at most. -/
theorem length_le_distance_add (s t : Text) : s.length ≤ distance s t + t.length := by
  fun_induction distance s t with
  | case1 t => simp
  | case2 c s => simp
  | case3 c s d t ihboth ihleft ihright =>
    simp only [List.length_cons] at *
    omega

end Recursion

section Least

/-- Taking the first character away brings a text nearer by one at most. -/
theorem distance_le_cons_left (c : Char) (s t : Text) :
    distance s t ≤ distance (c :: s) t + 1 := by
  induction t with
  | nil =>
    simp only [distance_nil_right, List.length_cons]
    omega
  | cons d t ih =>
    have hright := distance_cons_right_le d s t
    rcases distance_cases c d s t with hboth | hleft | hlast
    · omega
    · omega
    · omega

theorem distance_replace_le (c d : Char) (s t : Text) :
    distance (c :: s) t ≤ distance (d :: s) t + 1 := by
  induction t with
  | nil => simp [distance_nil_right]
  | cons e t ih =>
    have hboth := distance_cons_cons_le c e s t
    have hleft := distance_cons_left_le c s (e :: t)
    have hright := distance_cons_right_le e (c :: s) t
    have hone : (if c = e then 0 else 1) ≤ 1 := by split <;> omega
    rcases distance_cases d e s t with h | h | h
    · omega
    · omega
    · omega

/-- What an edit changes in the distances does not depend on what stands before it. -/
theorem distance_append_le (h : ∀ u, distance s u ≤ distance t u + 1) (before u : Text) :
    distance (before ++ s) u ≤ distance (before ++ t) u + 1 := by
  induction before generalizing u with
  | nil => exact h u
  | cons c before ih =>
    -- the recursion can shorten either text, so the other one is gone through as well
    induction u with
    | nil =>
      have hlength := ih []
      simp only [distance_nil_right, List.cons_append, List.length_cons] at hlength ⊢
      omega
    | cons d u ihu =>
      have hboth := distance_cons_cons_le c d (before ++ s) u
      have hleft := distance_cons_left_le c (before ++ s) (d :: u)
      have hright := distance_cons_right_le d (c :: (before ++ s)) u
      have hrest := ih u
      have hwhole := ih (d :: u)
      simp only [List.cons_append] at ihu ⊢
      rcases distance_cases c d (before ++ t) u with h | h | h
      · omega
      · omega
      · omega

/-- One edit brings a text nearer to another one by one at most. -/
theorem OneEdit.distance_le (h : OneEdit s t) (u : Text) : distance s u ≤ distance t u + 1 := by
  cases h with
  | insert before after c => exact distance_append_le (distance_le_cons_left c after) before u
  | delete before after c => exact distance_append_le (distance_cons_left_le c after) before u
  | replace before after c d => exact distance_append_le (distance_replace_le c d after) before u

/-- No edits get from one text to another in fewer steps than their distance. -/
theorem EditsTo.distance_le (h : EditsTo n s t) : distance s t ≤ n := by
  induction h with
  | none s => exact Nat.le_of_eq (distance_self s)
  | @edit n s t u hedit _ ih =>
    have hstep := hedit.distance_le u
    omega

theorem EditsTo.eq_of_zero (h : EditsTo 0 s t) : s = t := by
  cases h
  rfl

theorem OneEdit.cons (c : Char) (h : OneEdit s t) : OneEdit (c :: s) (c :: t) := by
  cases h with
  | insert before after d => exact .insert (c :: before) after d
  | delete before after d => exact .delete (c :: before) after d
  | replace before after d e => exact .replace (c :: before) after d e

theorem EditsTo.cons (c : Char) (h : EditsTo n s t) : EditsTo n (c :: s) (c :: t) := by
  induction h with
  | none s => exact .none (c :: s)
  | edit hedit _ ih => exact .edit (hedit.cons c) ih

theorem editsTo_nil_left (t : Text) : EditsTo t.length [] t := by
  induction t with
  | nil => exact .none []
  | cons d t ih => exact .edit (.insert [] [] d) (ih.cons d)

theorem editsTo_nil_right (s : Text) : EditsTo s.length s [] := by
  induction s with
  | nil => exact .none []
  | cons c s ih => exact .edit (.delete [] s c) ih

/-- As many edits as the distance says are enough. -/
theorem editsTo_distance (s t : Text) : EditsTo (distance s t) s t := by
  fun_induction distance s t with
  | case1 t => exact editsTo_nil_left t
  | case2 c s => exact editsTo_nil_right (c :: s)
  | case3 c s d t ihboth ihleft ihright =>
    rw [← distance_cons_cons]
    rcases distance_cases c d s t with h | h | h
    · rw [h]
      split
      · rename_i hsame
        subst hsame
        exact ihboth.cons c
      · exact .edit (.replace [] s c d) (ihboth.cons d)
    · rw [h]
      exact .edit (.delete [] s c) ihleft
    · rw [h]
      exact .edit (.insert [] (c :: s) d) (ihright.cons d)

end Least

section Backwards

theorem OneEdit.reverse (h : OneEdit s t) : OneEdit s.reverse t.reverse := by
  cases h with
  | insert before after c =>
    simpa using OneEdit.insert after.reverse before.reverse c
  | delete before after c =>
    simpa using OneEdit.delete after.reverse before.reverse c
  | replace before after c d =>
    simpa using OneEdit.replace after.reverse before.reverse c d

theorem EditsTo.reverse (h : EditsTo n s t) : EditsTo n s.reverse t.reverse := by
  induction h with
  | none s => exact .none s.reverse
  | edit hedit _ ih => exact .edit hedit.reverse ih

theorem distance_reverse_le (s t : Text) : distance s.reverse t.reverse ≤ distance s t :=
  (editsTo_distance s t).reverse.distance_le

/-- The rows are built from the ends of the texts, where the distance is the same. -/
theorem distance_reverse (s t : Text) : distance s.reverse t.reverse = distance s t := by
  have hback := distance_reverse_le s.reverse t.reverse
  rw [List.reverse_reverse, List.reverse_reverse] at hback
  exact Nat.le_antisymm (distance_reverse_le s t) hback

end Backwards

section Rows

/-- The distances of a text to another one and to what that becomes as more characters are put in
front of it, one by one. -/
def rowOf (s before : Text) : Text → List Nat
  | [] => [distance s before]
  | d :: t => distance s before :: rowOf s (d :: before) t

theorem rowOf_eq_cons (s before t : Text) :
    ∃ rest, rowOf s before t = distance s before :: rest := by
  cases t with
  | nil => exact ⟨[], rfl⟩
  | cons d t => exact ⟨rowOf s (d :: before) t, rfl⟩

theorem rowOf_nil (before t : Text) :
    rowOf [] before t = List.range' before.length (t.length + 1) := by
  induction t generalizing before with
  | nil => simp [rowOf, distance_nil_left]
  | cons d t ih =>
    rw [rowOf, ih, distance_nil_left]
    exact List.range'_succ.symm

theorem getLast?_rowOf (s before t : Text) :
    (rowOf s before t).getLast? = some (distance s (t.reverse ++ before)) := by
  induction t generalizing before with
  | nil => rfl
  | cons d t ih =>
    obtain ⟨rest, hrest⟩ := rowOf_eq_cons s (d :: before) t
    have hlast := ih (d :: before)
    rw [rowOf]
    rw [hrest] at hlast ⊢
    rw [List.getLast?_cons_cons, hlast]
    simp

/-- The entries that are computed from the row above are those of the next row. -/
theorem rowFrom_rowOf (c : Char) (s before t : Text) :
    distance (c :: s) before :: rowFrom c (distance (c :: s) before) t (rowOf s before t) =
      rowOf (c :: s) before t := by
  induction t generalizing before with
  | nil => rfl
  | cons d t ih =>
    obtain ⟨rest, hrest⟩ := rowOf_eq_cons s (d :: before) t
    have hlater := ih (d :: before)
    rw [hrest] at hlater
    simp only [rowOf, hrest, rowFrom]
    rw [← distance_cons_cons, hlater]

/-- The next row is that of a text with one more character. -/
theorem nextRow_rowOf (c : Char) (s t : Text) : nextRow t (rowOf s [] t) c = rowOf (c :: s) [] t := by
  obtain ⟨rest, hrest⟩ := rowOf_eq_cons s [] t
  have hrow := rowFrom_rowOf c s [] t
  simp only [distance_nil_right, List.length_cons] at hrow
  rw [← hrow]
  unfold nextRow
  rw [hrest]
  simp [distance_nil_right]

/-- The rows are those of the beginnings of the first text, read backwards. -/
theorem foldl_nextRow (read s t : Text) :
    s.foldl (nextRow t) (rowOf read [] t) = rowOf (s.reverse ++ read) [] t := by
  induction s generalizing read with
  | nil => rfl
  | cons c s ih =>
    rw [List.foldl_cons, nextRow_rowOf, ih, List.reverse_cons, List.append_assoc]
    rfl

/-- The last entry of the last row is the distance of the two texts. -/
theorem editDistance_eq_distance (s t : Text) : editDistance s t = distance s t := by
  have hfirst : List.range (t.length + 1) = rowOf [] [] t := by
    rw [rowOf_nil, List.range_eq_range']
    rfl
  unfold editDistance
  rw [hfirst, foldl_nextRow, getLast?_rowOf, Option.getD_some, List.append_nil, List.append_nil,
    distance_reverse]

end Rows

/-- The computed distance is the one of the recursion, and the least number of edits. -/
theorem editDistance_isLeast (s t : Text) :
    editDistance s t = distance s t ∧ IsLeast {n | EditsTo n s t} (editDistance s t) := by
  rw [editDistance_eq_distance]
  refine ⟨rfl, editsTo_distance s t, ?_⟩
  intro n hn
  exact EditsTo.distance_le hn

end ChartDialogue.Matching
