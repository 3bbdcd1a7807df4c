import ChartDialogue.Proofs.Matching.BinaryPercentage
import ChartDialogue.Proofs.Matching.ExactCandidate

/-!
Scores. The similarity of two texts does not depend on their order. Where neither text is part of the
other, neither is empty and they are not the same, so there is a distance to divide and a length to
divide it by: the distance is at least the difference of the lengths and at most the longer one, and
the score is a percentage from 0 to below 100 that is rounded.
-/
namespace ChartDialogue.Matching

open Text

variable {a b x y : Text}

section Order

theorem distanceScore_comm (x y : Text) : distanceScore x y = distanceScore y x := by
  unfold distanceScore
  rw [editDistance_eq_distance, editDistance_eq_distance, distance_comm, Nat.max_comm]

/-- Two texts are as alike as the other way round. -/
theorem similarity_comm (a b : Text) : similarity a b = similarity b a := by
  unfold similarity
  dsimp only
  rw [← plain, ← plain, distanceScore_comm, Bool.or_comm (plain a).isEmpty,
    Bool.or_comm (occursIn (plain b) (plain a))]
  simp only [eq_comm]

end Order

section Measuring

/-- Two texts of which neither is part of the other. In particular they differ, and neither is
empty. -/
structure Apart (x y : Text) : Prop where
  left : occursIn x y = false
  right : occursIn y x = false

def longest (x y : Text) : Nat :=
  max x.length y.length

def shortest (x y : Text) : Nat :=
  min x.length y.length

theorem Apart.symm (h : Apart x y) : Apart y x :=
  ⟨h.right, h.left⟩

theorem Apart.ne_nil (h : Apart x y) : x ≠ [] := by
  rintro rfl
  exact absurd h.left (by simp [occursIn_nil])

theorem Apart.ne (h : Apart x y) : x ≠ y := by
  rintro rfl
  exact absurd h.left (by simp [occursIn_self])

theorem Apart.longest_pos (h : Apart x y) : 0 < longest x y := by
  have hx := List.length_pos_iff.mpr h.ne_nil
  unfold longest
  omega

theorem Apart.editDistance_pos (h : Apart x y) : 0 < editDistance x y := by
  rw [editDistance_eq_distance]
  by_contra hzero
  have hsame := editsTo_distance x y
  rw [Nat.eq_zero_of_not_pos hzero] at hsame
  exact h.ne hsame.eq_of_zero

/-- No more edits are needed than the longer text has characters. -/
theorem editDistance_le_longest (x y : Text) : editDistance x y ≤ longest x y := by
  rw [editDistance_eq_distance]
  exact distance_le_max x y

theorem longest_sub_shortest_le (x y : Text) : longest x y - shortest x y ≤ editDistance x y := by
  have hleft := length_le_distance_add x y
  have hright := length_le_distance_add y x
  rw [distance_comm] at hright
  rw [editDistance_eq_distance]
  unfold longest shortest
  omega

/-- What is counted and divided when two texts are compared character by character, and how the
quotient is rounded to the score. -/
structure Measured (x y : Text) (score : Nat) : Prop where
  left_ne_nil : x ≠ []
  right_ne_nil : y ≠ []
  longest_pos : 0 < longest x y
  editDistance_pos : 0 < editDistance x y
  difference_le : longest x y - shortest x y ≤ editDistance x y
  le_longest : editDistance x y ≤ longest x y
  nonneg : 0 ≤ exactPercentage (editDistance x y) (longest x y)
  lt_hundred : exactPercentage (editDistance x y) (longest x y) < 100
  rounded : |score - exactPercentage (editDistance x y) (longest x y)| ≤ 1 / 2
  /-- The same of the percentage that is computed in binary numbers. -/
  computed : longest x y ≤ 2 ^ 43 →
    0 ≤ binaryPercentage (editDistance x y) (longest x y) ∧
    binaryPercentage (editDistance x y) (longest x y) < 100 ∧
    ⌊binaryPercentage (editDistance x y) (longest x y) + 1 / 2⌋ = score

/-- The score of such texts is the rounded quotient. -/
theorem Apart.measured (h : Apart x y) : Measured x y (distanceScore x y) where
  left_ne_nil := h.ne_nil
  right_ne_nil := h.symm.ne_nil
  longest_pos := h.longest_pos
  editDistance_pos := h.editDistance_pos
  difference_le := longest_sub_shortest_le x y
  le_longest := editDistance_le_longest x y
  nonneg := exactPercentage_nonneg (editDistance_le_longest x y) h.longest_pos
  lt_hundred := exactPercentage_lt h.editDistance_pos h.longest_pos
  rounded := abs_percentage_sub_le (editDistance_le_longest x y) h.longest_pos
  computed := by
    intro hlength
    have hle := editDistance_le_longest x y
    refine ⟨binaryPercentage_nonneg hle h.longest_pos hlength, ?_, ?_⟩
    · exact binaryPercentage_lt h.editDistance_pos hle hlength
    · exact floor_binaryPercentage h.editDistance_pos hle hlength

theorem similarity_of_apart (h : Apart (plain a) (plain b)) :
    similarity a b = distanceScore (plain a) (plain b) := by
  have hleft := List.isEmpty_eq_false_iff.mpr h.ne_nil
  have hright := List.isEmpty_eq_false_iff.mpr h.symm.ne_nil
  unfold similarity
  dsimp only
  rw [← plain, ← plain, if_neg h.ne, hleft, hright, h.left, h.right]
  rfl

/-- Without a comparison of characters the score is one of three. -/
theorem similarity_of_not_apart (h : ¬Apart (plain a) (plain b)) :
    similarity a b ∈ [exactScore, 0, containedScore] := by
  unfold similarity
  dsimp only
  rw [← plain, ← plain]
  split_ifs with hsame hempty hpart
  · simp
  · simp
  · simp
  · obtain ⟨hright, hleft⟩ := Bool.or_eq_false_iff.mp (Bool.eq_false_iff.mpr hpart)
    exact absurd ⟨hleft, hright⟩ h

end Measuring

/-- Two texts are as similar as they are the other way round. If neither is part of the other when
case and spacing do not count, then their characters are compared, for which everything is defined. If
one is part of the other then no characters are compared. -/
theorem similarity_measured (a b : Text) :
    similarity a b = similarity b a ∧
      (Apart (plain a) (plain b) →
        similarity a b = distanceScore (plain a) (plain b) ∧
          Measured (plain a) (plain b) (similarity a b)) ∧
      (¬Apart (plain a) (plain b) → similarity a b ∈ [exactScore, 0, containedScore]) := by
  refine ⟨similarity_comm a b, ?_, similarity_of_not_apart⟩
  intro h
  have hscore := similarity_of_apart h
  refine ⟨hscore, ?_⟩
  rw [hscore]
  exact h.measured

theorem similarity_measured_kitten :
    Apart (plain "Kitten".toList) (plain " sitting".toList) ∧
    Measured (plain "Kitten".toList) (plain " sitting".toList)
      (similarity "Kitten".toList " sitting".toList) ∧
    similarity "Kitten".toList " sitting".toList = 57 := by
  have hapart : Apart (plain "Kitten".toList) (plain " sitting".toList) :=
    ⟨by decide +kernel, by decide +kernel⟩
  obtain ⟨hscore, hmeasured⟩ := (similarity_measured "Kitten".toList " sitting".toList).2.1 hapart
  exact ⟨hapart, hmeasured, hscore.trans (by decide +kernel)⟩

end ChartDialogue.Matching
