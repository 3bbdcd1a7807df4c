import ChartDialogue.Matching.Similarity
import Mathlib.Data.Int.Log
import Mathlib.Data.Rat.Floor
import Mathlib.Tactic.Linarith
import Mathlib.Tactic.NormNum
import Mathlib.Tactic.Positivity
import Mathlib.Tactic.SplitIfs

/-!
A percentage computed in binary numbers of 53 digits. Each of the three operations is rounded to a
nearest such number, a tie to the even one. The exact percentage is a half or differs from every half
by more than the three errors together, unless the whole is very large. So the computed percentage is
rounded to the same whole number as the exact one, except that some of the hundred halves come out
too low.
-/
namespace ChartDialogue.Matching

section Rounding

variable {x : ℚ}

/-- The nearest whole number, and the even one of two that are equally near. -/
def nearestEven (x : ℚ) : Int :=
  if Int.fract x < 1 / 2 ∨ (Int.fract x = 1 / 2 ∧ Even ⌊x⌋) then ⌊x⌋ else ⌊x⌋ + 1

/-- What the last of 53 binary digits of a number counts. -/
def lastDigit (x : ℚ) : ℚ :=
  2 ^ (Int.log 2 x - 52)

/-- A number rounded to 53 binary digits. -/
def toBinary (x : ℚ) : ℚ :=
  nearestEven (x / lastDigit x) * lastDigit x

/-- Rounding to a whole number moves a number by one half at most. -/
theorem abs_nearestEven_sub_le (x : ℚ) : |nearestEven x - x| ≤ 1 / 2 := by
  have hsplit : x = ⌊x⌋ + Int.fract x := (Int.floor_add_fract x).symm
  have hnonneg := Int.fract_nonneg x
  have hlt := Int.fract_lt_one x
  rw [abs_le]
  unfold nearestEven
  split_ifs with hdown
  · have hhalf : Int.fract x ≤ 1 / 2 := by
      rcases hdown with hless | ⟨htie, -⟩
      · exact hless.le
      · exact htie.le
    constructor <;> linarith
  · have hhalf : 1 / 2 ≤ Int.fract x := by
      by_contra hless
      exact hdown (Or.inl (not_le.mp hless))
    push_cast
    constructor <;> linarith

theorem lastDigit_pos (x : ℚ) : 0 < lastDigit x :=
  zpow_pos (by norm_num) _

theorem lastDigit_le (h : 0 < x) : lastDigit x ≤ x / 2 ^ 52 := by
  have hlog : (2 : ℚ) ^ Int.log 2 x ≤ x := by
    exact_mod_cast Int.zpow_log_le_self (b := 2) (by norm_num) h
  unfold lastDigit
  rw [zpow_sub₀ (by norm_num)]
  gcongr
  norm_num

/-- Rounding changes a number by at most one part of 2 ^ 53. -/
theorem abs_toBinary_sub_le (h : 0 ≤ x) : |toBinary x - x| ≤ x / 2 ^ 53 := by
  rcases h.eq_or_lt with rfl | hpos
  · simp [toBinary, nearestEven]
  · have hdigit := lastDigit_pos x
    have hnear := abs_nearestEven_sub_le (x / lastDigit x)
    have hscaled : toBinary x - x =
        (nearestEven (x / lastDigit x) - x / lastDigit x) * lastDigit x := by
      unfold toBinary
      rw [sub_mul, div_mul_cancel₀ x hdigit.ne']
    calc |toBinary x - x|
        = |nearestEven (x / lastDigit x) - x / lastDigit x| * lastDigit x := by
          rw [hscaled, abs_mul, abs_of_pos hdigit]
      _ ≤ 1 / 2 * (x / 2 ^ 52) := by
          gcongr
          exact lastDigit_le hpos
      _ = x / 2 ^ 53 := by ring

theorem toBinary_nonneg (h : 0 ≤ x) : 0 ≤ toBinary x := by
  have herror := (abs_le.mp (abs_toBinary_sub_le h)).1
  linarith

theorem toBinary_one : toBinary 1 = 1 := by
  have hdigit : lastDigit 1 = 1 / 2 ^ 52 := by
    rw [lastDigit, Int.log_one_right]
    norm_num
  have hwhole : nearestEven (2 ^ 52 : Nat) = 2 ^ 52 := by
    unfold nearestEven
    rw [Int.fract_natCast, if_pos (Or.inl (by norm_num)), Int.floor_natCast]
    norm_num
  have hscaled : (1 : ℚ) / lastDigit 1 = (2 ^ 52 : Nat) := by
    rw [hdigit]
    norm_num
  rw [toBinary, hscaled, hwhole, hdigit]
  norm_num

end Rounding

section Percentages

variable {missing whole : Nat}

/-- What is left of a whole in percent. -/
def exactPercentage (missing whole : Nat) : ℚ :=
  (1 - missing / whole) * 100

/-- What is left of a whole in percent, with every operation rounded to 53 binary digits. -/
def binaryPercentage (missing whole : Nat) : ℚ :=
  toBinary (toBinary (1 - toBinary (missing / whole)) * 100)

theorem exactPercentage_nonneg (h : missing ≤ whole) (hpos : 0 < whole) :
    0 ≤ exactPercentage missing whole := by
  have hreal : (0 : ℚ) < whole := by positivity
  have hpart : (missing : ℚ) / whole ≤ 1 := (div_le_one hreal).mpr (by exact_mod_cast h)
  unfold exactPercentage
  linarith

theorem exactPercentage_lt (hmissing : 0 < missing) (hpos : 0 < whole) :
    exactPercentage missing whole < 100 := by
  have hpart : (0 : ℚ) < missing / whole := by positivity
  unfold exactPercentage
  linarith

/-- The whole percents, the rest, and how a percentage is rounded by them. -/
theorem exists_percents (h : missing ≤ whole) (hpos : 0 < whole) :
    ∃ below rest : Nat, rest < whole ∧ exactPercentage missing whole = below + rest / whole ∧
      percentage (whole - missing) whole =
        if 2 * rest < whole ∨ (2 * rest = whole ∧ below ∈ lowHalves) then below else below + 1 := by
  refine ⟨_, _, Nat.mod_lt (100 * (whole - missing)) hpos, ?_, rfl⟩
  have hreal : (0 : ℚ) < whole := by positivity
  have hdivision : (whole * (100 * (whole - missing) / whole : Nat) +
      (100 * (whole - missing) % whole : Nat) : ℚ) = 100 * (whole - missing) := by
    rw [← Nat.cast_sub h]
    exact_mod_cast Nat.div_add_mod (100 * (whole - missing)) whole
  unfold exactPercentage
  field_simp
  linarith

/-- A percentage is rounded to a nearest whole number. -/
theorem abs_percentage_sub_le (h : missing ≤ whole) (hpos : 0 < whole) :
    |percentage (whole - missing) whole - exactPercentage missing whole| ≤ 1 / 2 := by
  obtain ⟨below, rest, hrest, hexact, hrounded⟩ := exists_percents h hpos
  have hreal : (0 : ℚ) < whole := by positivity
  have hnonneg : (0 : ℚ) ≤ rest / whole := by positivity
  have hone : (rest : ℚ) / whole < 1 := (div_lt_one hreal).mpr (by exact_mod_cast hrest)
  rw [hexact, hrounded, abs_le]
  split_ifs with hdown
  · have hhalf : (rest : ℚ) / whole ≤ 1 / 2 := by
      rw [div_le_div_iff₀ hreal (by norm_num)]
      exact_mod_cast (by omega : rest * 2 ≤ 1 * whole)
    constructor <;> linarith
  · have hhalf : 1 / 2 ≤ (rest : ℚ) / whole := by
      rw [div_le_div_iff₀ (by norm_num) hreal]
      exact_mod_cast (by omega : 1 * whole ≤ rest * 2)
    push_cast
    constructor <;> linarith

/-- A part of a whole that is not too large is at most one, also when it is rounded. -/
theorem toBinary_div_le_one (h : missing ≤ whole) (hpos : 0 < whole) (hwhole : whole ≤ 2 ^ 43) :
    toBinary (missing / whole) ≤ 1 := by
  have hreal : (0 : ℚ) < whole := by positivity
  rcases h.eq_or_lt with rfl | hless
  · rw [div_self hreal.ne', toBinary_one]
  · have hpart : (missing : ℚ) / whole ≤ 1 - 1 / 2 ^ 43 := by
      have hone : (1 : ℚ) / 2 ^ 43 ≤ 1 / whole :=
        one_div_le_one_div_of_le hreal (by exact_mod_cast hwhole)
      have hsucc : (missing : ℚ) + 1 ≤ whole := by exact_mod_cast hless
      have hdiv : (missing : ℚ) / whole ≤ 1 - 1 / whole := by
        rw [div_le_iff₀ hreal, sub_mul, one_div_mul_cancel hreal.ne']
        linarith
      linarith
    have herror := (abs_le.mp (abs_toBinary_sub_le (x := missing / whole) (by positivity))).2
    linarith

theorem binaryPercentage_nonneg (h : missing ≤ whole) (hpos : 0 < whole) (hwhole : whole ≤ 2 ^ 43) :
    0 ≤ binaryPercentage missing whole := by
  have hrest : 0 ≤ 1 - toBinary (missing / whole) :=
    sub_nonneg.mpr (toBinary_div_le_one h hpos hwhole)
  exact toBinary_nonneg (mul_nonneg (toBinary_nonneg hrest) (by norm_num))

/-- The errors of the quotient and of the difference count a hundred times, that of the product
once. -/
theorem abs_binaryPercentage_sub_le (h : missing ≤ whole) (hpos : 0 < whole)
    (hwhole : whole ≤ 2 ^ 43) :
    |binaryPercentage missing whole - exactPercentage missing whole| ≤ 301 / 2 ^ 53 := by
  have hreal : (0 : ℚ) < whole := by positivity
  have hpart : (0 : ℚ) ≤ missing / whole := by positivity
  have hpart_le : (missing : ℚ) / whole ≤ 1 := (div_le_one hreal).mpr (by exact_mod_cast h)
  have hquotient := abs_le.mp (abs_toBinary_sub_le hpart)
  have hquotient_nonneg := toBinary_nonneg hpart
  have hrest : 0 ≤ 1 - toBinary (missing / whole) :=
    sub_nonneg.mpr (toBinary_div_le_one h hpos hwhole)
  have hdifference := abs_le.mp (abs_toBinary_sub_le hrest)
  have hscaled : 0 ≤ toBinary (1 - toBinary (missing / whole)) * 100 :=
    mul_nonneg (toBinary_nonneg hrest) (by norm_num)
  have hproduct := abs_le.mp (abs_toBinary_sub_le hscaled)
  unfold binaryPercentage exactPercentage
  rw [abs_le]
  generalize toBinary (missing / whole) = quotient at *
  generalize toBinary (1 - quotient) = difference at *
  constructor <;> linarith

theorem binaryPercentage_lt (hmissing : 0 < missing) (h : missing ≤ whole)
    (hwhole : whole ≤ 2 ^ 43) : binaryPercentage missing whole < 100 := by
  have herror := (abs_le.mp (abs_binaryPercentage_sub_le h (by omega) hwhole)).2
  have hpart : (1 : ℚ) / 2 ^ 43 ≤ missing / whole := by
    gcongr
    · exact_mod_cast Nat.lt_of_lt_of_le hmissing h
    · exact_mod_cast hmissing
    · exact_mod_cast hwhole
  unfold exactPercentage at herror
  linarith

/-- How each of the hundred halves comes out. -/
theorem floor_halves : ∀ below : Nat, below < 100 →
    ⌊toBinary (toBinary (1 - toBinary ((199 - 2 * below) / 200)) * 100) + 1 / 2⌋ =
      if below ∈ lowHalves then (below : Int) else below + 1 := by
  decide +kernel

/-- What is nearer to a number than that is to a half is rounded in the same way. -/
theorem floor_add_half {below : Nat} {part computed error : ℚ} (hnonneg : 0 ≤ part) (hone : part < 1)
    (herror : |computed - (below + part)| ≤ error) (hsmall : error < 1 / 2)
    (hfar : error < |part - 1 / 2|) :
    ⌊computed + 1 / 2⌋ = if part < 1 / 2 then (below : Int) else below + 1 := by
  rw [abs_le] at herror
  rw [Int.floor_eq_iff]
  split_ifs with hhalf
  · rw [abs_of_neg (by linarith)] at hfar
    push_cast
    constructor <;> linarith
  · rw [abs_of_nonneg (by linarith)] at hfar
    push_cast
    constructor <;> linarith

/-- A quotient that is not a half is not near to one. -/
theorem le_abs_div_sub_half {rest : Nat} (hpos : 0 < whole) (hwhole : whole ≤ 2 ^ 43)
    (htie : 2 * rest ≠ whole) : 1 / 2 ^ 44 ≤ |(rest : ℚ) / whole - 1 / 2| := by
  have hreal : (0 : ℚ) < whole := by positivity
  have hodd : 1 ≤ |(2 * rest - whole : ℚ)| := by
    have hint : 1 ≤ |(2 * rest - whole : Int)| := Int.one_le_abs (by omega)
    exact_mod_cast hint
  have hlarge : (2 * whole : ℚ) ≤ 2 ^ 44 := by
    exact_mod_cast (by omega : 2 * whole ≤ 2 ^ 44)
  have hquotient : (rest : ℚ) / whole - 1 / 2 = (2 * rest - whole) / (2 * whole) := by
    field_simp
  rw [hquotient, abs_div, abs_of_pos (by positivity : (0 : ℚ) < 2 * whole)]
  exact div_le_div₀ (by positivity) hodd (by positivity) hlarge

/-- A half is checked, and where there is none the errors are too small to matter. -/
theorem floor_binaryPercentage (hmissing : 0 < missing) (h : missing ≤ whole)
    (hwhole : whole ≤ 2 ^ 43) :
    ⌊binaryPercentage missing whole + 1 / 2⌋ = percentage (whole - missing) whole := by
  have hpos : 0 < whole := by omega
  have hreal : (0 : ℚ) < whole := by positivity
  obtain ⟨below, rest, hrest, hexact, hrounded⟩ := exists_percents h hpos
  rw [hrounded]
  -- on a tie the quotient is one of a hundred; otherwise the half is farther away than the errors
  by_cases htie : 2 * rest = whole
  · have hhalf : (rest : ℚ) / whole = 1 / 2 := by
      rw [div_eq_div_iff hreal.ne' (by norm_num)]
      exact_mod_cast (by omega : rest * 2 = 1 * whole)
    have hquotient : (missing : ℚ) / whole = (199 - 2 * below) / 200 := by
      rw [hhalf, exactPercentage] at hexact
      linarith
    have hbelow : below < 100 := by
      have hpart : (0 : ℚ) < missing / whole := by positivity
      have hless : (below : ℚ) < 100 := by linarith
      exact_mod_cast hless
    unfold binaryPercentage
    rw [hquotient, floor_halves below hbelow]
    simp only [htie, lt_irrefl, true_and, false_or]
    split_ifs <;> rfl
  · have hfar := le_abs_div_sub_half hpos hwhole htie
    have herror := abs_binaryPercentage_sub_le h hpos hwhole
    have hone : (rest : ℚ) / whole < 1 := (div_lt_one hreal).mpr (by exact_mod_cast hrest)
    have hhalf : (rest : ℚ) / whole < 1 / 2 ↔ 2 * rest < whole := by
      rw [div_lt_div_iff₀ hreal (by norm_num), one_mul, mul_comm]
      exact_mod_cast Iff.rfl
    rw [hexact] at herror
    rw [floor_add_half (by positivity) hone herror (by norm_num) (by linarith)]
    simp only [hhalf, htie, false_and, or_false]
    split_ifs <;> rfl

end Percentages

end ChartDialogue.Matching
