import ChartDialogue.Proofs.Matching.Closest
import ChartDialogue.Proofs.Matching.FewestEdits
import ChartDialogue.Proofs.Text.Reading

/-!
A candidate with the words of the input. It scores as high as can be, and so does a candidate that
differs in one character of two hundred, because the score is rounded. So the first candidate with
the words of the input is the closest one unless such a candidate stands before it.
-/
namespace ChartDialogue.Matching

open Text

/-- A text as it is compared: its words in lower case, with single spaces between them. -/
def plain (s : Text) : Text :=
  lowercase (normalize s)

/-- Two texts have the same words, whatever their case. -/
def SameWords (a b : Text) : Prop :=
  plain a = plain b

instance (a b : Text) : Decidable (SameWords a b) :=
  inferInstanceAs (Decidable (plain a = plain b))

/-- Two texts of which none is part of the other differ in at most one of two hundred characters. -/
def NearlySame (a b : Text) : Prop :=
  occursIn (plain b) (plain a) = false ∧ occursIn (plain a) (plain b) = false ∧
    200 * editDistance (plain a) (plain b) ≤ max (plain a).length (plain b).length

instance (a b : Text) : Decidable (NearlySame a b) :=
  inferInstanceAs (Decidable (_ ∧ _ ∧ _))

section Scores

variable {a b input : Text}

theorem occursIn_nil (s : Text) : occursIn [] s = true :=
  occursIn_iff_infix.mpr List.nil_infix

theorem occursIn_self (s : Text) : occursIn s s = true :=
  occursIn_iff_infix.mpr List.infix_rfl

/-- A percentage is rounded up to the whole exactly if at most a two hundredth is missing. -/
theorem percentage_eq_exactScore_iff {missing whole : Nat} (h : 0 < whole) :
    percentage (whole - missing) whole = exactScore ↔ 200 * missing ≤ whole := by
  have hdivision := Nat.div_add_mod (100 * (whole - missing)) whole
  have hrest := Nat.mod_lt (100 * (whole - missing)) h
  have hwhole : 100 * (whole - missing) / whole ≤ 100 :=
    Nat.div_le_of_le_mul (by omega)
  unfold percentage exactScore
  dsimp only
  generalize 100 * (whole - missing) / whole = below at *
  generalize 100 * (whole - missing) % whole = rest at *
  have hbelow : below = 100 ∨ below = 99 ∨ below ≤ 98 := by omega
  rcases hbelow with rfl | rfl | hbelow
  · rw [if_pos (by omega)]
    omega
  · have hlow : 99 ∉ lowHalves := by decide
    simp only [hlow, and_false, or_false]
    split_ifs <;> omega
  · have hless : whole * below ≤ whole * 98 := Nat.mul_le_mul_left whole hbelow
    split_ifs <;> omega

theorem percentage_le (part : Nat) {whole : Nat} (h : part ≤ whole) :
    percentage part whole ≤ exactScore := by
  rcases Nat.eq_zero_or_pos whole with rfl | hpos
  · rw [Nat.le_zero.mp h]
    decide
  have hdivision := Nat.div_add_mod (100 * part) whole
  have hwhole : 100 * part / whole ≤ 100 := Nat.div_le_of_le_mul (by omega)
  unfold percentage exactScore
  dsimp only
  generalize 100 * part / whole = below at *
  generalize 100 * part % whole = rest at *
  have hbelow : below = 100 ∨ below ≤ 99 := by omega
  rcases hbelow with rfl | hbelow
  · exact Nat.le_of_eq (if_pos (by omega))
  · split_ifs <;> omega

/-- No score is greater than that of the same words. -/
theorem similarity_le (a b : Text) : similarity a b ≤ exactScore := by
  unfold similarity
  dsimp only
  split_ifs
  · exact Nat.le_refl _
  · exact Nat.zero_le _
  · decide
  · exact percentage_le _ (Nat.sub_le _ _)

/-- Besides texts with the same words only very long ones reach the greatest score. -/
theorem similarity_eq_exactScore_iff :
    similarity a b = exactScore ↔ SameWords a b ∨ NearlySame a b := by
  unfold similarity SameWords NearlySame
  dsimp only
  rw [← plain, ← plain]
  generalize plain a = x
  generalize plain b = y
  by_cases hsame : x = y
  · simp only [hsame, if_true, true_or]
  rw [if_neg hsame]
  cases hempty : x.isEmpty || y.isEmpty with
  | true =>
    have hpart : occursIn y x = true ∨ occursIn x y = true := by
      rcases Bool.or_eq_true_iff.mp hempty with hx | hy
      · rw [List.isEmpty_iff.mp hx]
        exact Or.inr (occursIn_nil y)
      · rw [List.isEmpty_iff.mp hy]
        exact Or.inl (occursIn_nil x)
    rcases hpart with hpart | hpart <;> simp [hsame, hpart, exactScore]
  | false =>
    cases hpart : occursIn y x || occursIn x y with
    | true =>
      rcases Bool.or_eq_true_iff.mp hpart with hpart | hpart <;>
        simp [hsame, hpart, exactScore, containedScore]
    | false =>
      obtain ⟨hyx, hxy⟩ := Bool.or_eq_false_iff.mp hpart
      have hlongest : 0 < max x.length y.length := by
        rw [Bool.or_eq_false_iff, List.isEmpty_eq_false_iff, ← List.length_pos_iff] at hempty
        omega
      simp only [hsame, hyx, hxy, false_or, true_and, Bool.false_eq_true, if_false]
      exact percentage_eq_exactScore_iff hlongest

/-- Texts that are nearly the same differ, so one of them is long. -/
theorem NearlySame.length_le (h : NearlySame a b) :
    200 ≤ max (plain a).length (plain b).length := by
  obtain ⟨hpart, -, hedits⟩ := h
  have hdiffer : editDistance (plain a) (plain b) ≠ 0 := by
    intro hzero
    have hsame := editsTo_distance (plain a) (plain b)
    rw [← editDistance_eq_distance, hzero] at hsame
    rw [hsame.eq_of_zero, occursIn_self] at hpart
    exact Bool.noConfusion hpart
  omega

end Scores

section Choice

variable {input p : Text} {before after : List Text} {threshold : Nat}

/-- The first candidate with the highest possible score is chosen. -/
theorem closest?_append (hthreshold : threshold ≤ exactScore)
    (hbefore : ∀ q ∈ before, ¬(SameWords input q ∨ NearlySame input q))
    (hp : SameWords input p ∨ NearlySame input p) :
    closest? input (before ++ p :: after) threshold = some before.length := by
  have hlower : ∀ n ∈ before.map (similarity input), n < exactScore := by
    intro n hn
    obtain ⟨q, hq, rfl⟩ := List.mem_map.mp hn
    exact Nat.lt_of_le_of_ne (similarity_le input q)
      (mt similarity_eq_exactScore_iff.mp (hbefore q hq))
  have hhigher : ∀ n ∈ after.map (similarity input), n ≤ exactScore := by
    intro n hn
    obtain ⟨q, -, rfl⟩ := List.mem_map.mp hn
    exact similarity_le input q
  have hfirst := firstMax?_append hlower hhigher
  unfold closest?
  rw [List.map_append, List.map_cons, similarity_eq_exactScore_iff.mpr hp, hfirst]
  simp [hthreshold]

/-- Of candidates none of which has the words of the input, followed by one that has them, the first
one that is nearly the same is chosen, and the one with the words of the input if there is none. There
is none among short texts. -/
theorem closest?_first_same (hthreshold : threshold ≤ exactScore)
    (hbefore : ∀ q ∈ before, ¬SameWords input q) (hp : SameWords input p) :
    closest? input (before ++ p :: after) threshold =
        some (before.findIdx fun q => NearlySame input q) ∧
      (closest? input (before ++ p :: after) threshold = some before.length ↔
        ∀ q ∈ before, ¬NearlySame input q) ∧
      ((plain input).length < 200 → (∀ q ∈ before, (plain q).length < 200) →
        ∀ q ∈ before, ¬NearlySame input q) := by
  have hchosen : closest? input (before ++ p :: after) threshold =
      some (before.findIdx fun q => NearlySame input q) := by
    cases hfound : before.find? fun q => NearlySame input q with
    | none =>
      have hnone : ∀ q ∈ before, ¬NearlySame input q := by simpa using hfound
      rw [closest?_append hthreshold (fun q hq => not_or.mpr ⟨hbefore q hq, hnone q hq⟩) (.inl hp),
        List.findIdx_eq_length_of_false (by simpa using hnone)]
    | some q =>
      obtain ⟨hq, front, back, rfl, hfront⟩ := List.find?_eq_some_iff_append.mp hfound
      have hnone : ∀ r ∈ front, ¬NearlySame input r := by simpa using hfront
      have hindex : (front ++ q :: back).findIdx (fun q => NearlySame input q) = front.length := by
        rw [List.findIdx_append, List.findIdx_eq_length_of_false (by simpa using hnone)]
        simp [List.findIdx_cons, of_decide_eq_true hq]
      rw [hindex, List.append_assoc, List.cons_append]
      refine closest?_append hthreshold (fun r hr => not_or.mpr ⟨hbefore r ?_, hnone r hr⟩)
        (.inr (of_decide_eq_true hq))
      exact List.mem_append_left _ hr
  refine ⟨hchosen, ?_, ?_⟩
  · rw [hchosen, Option.some.injEq, List.findIdx_eq_length]
    simp only [decide_eq_false_iff_not]
  · intro hinput hshort q hq hnear
    have hlong := hnear.length_le
    have hq := hshort q hq
    omega

theorem closest?_hello :
    70 ≤ exactScore ∧ (∀ q ∈ ["goodbye".toList, "hello you".toList],
      ¬SameWords "Hello ".toList q) ∧ SameWords "Hello ".toList "hello".toList ∧
    closest? "Hello ".toList ["goodbye".toList, "hello you".toList, "hello".toList] 70 = some 2 := by
  have hthreshold : 70 ≤ exactScore := by decide
  have hbefore : ∀ q ∈ ["goodbye".toList, "hello you".toList], ¬SameWords "Hello ".toList q := by
    decide
  have hp : SameWords "Hello ".toList "hello".toList := by decide
  have hchosen : closest? "Hello ".toList ["goodbye".toList, "hello you".toList, "hello".toList] 70 =
      some _ := (closest?_first_same hthreshold hbefore hp).1
  exact ⟨hthreshold, hbefore, hp, hchosen.trans (by decide)⟩

/-- Two hundred characters, of which only the last one can vary. -/
def drawl (c : Char) : Text :=
  List.replicate 199 'a' ++ [c]

theorem nearlySame_drawl : NearlySame (drawl 'a') (drawl 'b') := by
  have hplain : plain (drawl 'a') = drawl 'a' ∧ plain (drawl 'b') = drawl 'b' := by decide +kernel
  have hreplaced : EditsTo 1 (drawl 'a') (drawl 'b') :=
    .edit (.replace (List.replicate 199 'a') [] 'a' 'b') (.none (drawl 'b'))
  have hedits := hreplaced.distance_le
  unfold NearlySame
  rw [hplain.1, hplain.2, editDistance_eq_distance]
  refine ⟨by decide +kernel, by decide +kernel, ?_⟩
  have hlength : (drawl 'a').length = 200 := by
    rw [drawl, List.length_append, List.length_replicate, List.length_singleton]
  omega

/-- A candidate that differs in its last character is chosen before the one that is the same. -/
theorem closest?_drawl :
    70 ≤ exactScore ∧ ¬SameWords (drawl 'a') (drawl 'b') ∧ SameWords (drawl 'a') (drawl 'a') ∧
    closest? (drawl 'a') [drawl 'b', drawl 'a'] 70 = some 0 := by
  have hthreshold : 70 ≤ exactScore := by decide
  have hchosen : closest? (drawl 'a') ([] ++ drawl 'b' :: [drawl 'a']) 70 = some 0 :=
    closest?_append hthreshold (by simp) (.inr nearlySame_drawl)
  exact ⟨hthreshold, by decide +kernel, rfl, hchosen⟩

end Choice

end ChartDialogue.Matching
