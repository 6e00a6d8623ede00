import PrintConnector.Number.Shortest
import PrintConnector.Proofs.Number.Rounding

namespace PrintConnector.Number

variable {x : ℚ} {digits : Nat} {exponent : Int}

/-- The number that a decimal stands for. -/
def Decimal.value (decimal : Decimal) : ℚ :=
  decimal.digits * 10 ^ decimal.exponent

theorem Magnitude.ratio_pos (magnitude : Magnitude) : 0 < magnitude.ratio.2 :=
  scaleDown_pos Nat.one_pos _

theorem Magnitude.ratio_value (magnitude : Magnitude) :
    (magnitude.ratio.1 : ℚ) / magnitude.ratio.2 = magnitude.value := by
  rw [ratio, scaleDown_value, value, Nat.cast_one, div_one, zpow_neg, div_inv_eq_mul]

namespace BinaryFormat

theorem exists_isRounded {numerator denominator : Nat} (positive : 0 < denominator)
    (value : (numerator : ℚ) / denominator = x) (normal : double.IsNormal x) :
    ∃ rounded, double.nearest? numerator denominator = some rounded ∧
      double.IsRounded x rounded := by
  have above : 0 < x := lt_of_lt_of_le (by positivity) normal.large
  have nonzero := numerator_pos above value
  subst value
  exact exists_nearest? nonzero positive (by decide) normal

theorem exists_product {left right : Magnitude}
    (normal : double.IsNormal (left.value * right.value)) :
    ∃ product, double.product? left right = some product ∧
      double.IsRounded (left.value * right.value) product := by
  apply exists_isRounded (scaleDown_pos Nat.one_pos _) _ normal
  rw [scaleDown_value, Magnitude.value, Magnitude.value, zpow_neg, div_inv_eq_mul,
    zpow_add₀ (by norm_num)]
  push_cast
  ring

theorem exists_quotient {left right : Magnitude} (nonzero : 0 < right.mantissa)
    (normal : double.IsNormal (left.value / right.value)) :
    ∃ quotient, double.quotient? left right = some quotient ∧
      double.IsRounded (left.value / right.value) quotient := by
  apply exists_isRounded (scaleDown_pos nonzero _) _ normal
  have real : (right.mantissa : ℚ) ≠ 0 := by exact_mod_cast nonzero.ne'
  rw [scaleDown_value, Magnitude.value, Magnitude.value, zpow_sub₀ (by norm_num)]
  field_simp

theorem isNormal_of_le (large : 2 ^ (-250 : Int) ≤ x) (small : x ≤ 2 ^ (250 : Int)) :
    double.IsNormal x where
  large := by
    refine le_trans ?_ large
    apply zpow_le_zpow_right₀ (by norm_num)
    decide
  small := by
    apply small.trans_lt
    apply zpow_lt_zpow_right₀ (by norm_num)
    decide

theorem holds_natCast (short : digits < 2 ^ 53) : double.Holds digits :=
  ⟨digits, 0, short, by decide, by simp⟩

end BinaryFormat

open BinaryFormat

theorem leadingDigits_of_lt (short : digits < 2 ^ 64) (fuel : Nat) :
    leadingDigits fuel digits exponent = (digits, exponent) := by
  cases fuel with
  | zero => rfl
  | succ fuel => rw [leadingDigits, if_pos (by omega)]

theorem exists_digits (nonzero : 0 < digits) (short : digits < 2 ^ 53) :
    ∃ rounded, double.nearest? digits 1 = some rounded ∧ rounded.value = digits := by
  have one : (1 : ℚ) ≤ digits := by exact_mod_cast nonzero
  have real : (digits : ℚ) ≤ 2 ^ (53 : Int) := by exact_mod_cast short.le
  have normal : double.IsNormal digits := by
    apply isNormal_of_le
    · exact le_trans (by norm_num) one
    · exact real.trans (by norm_num)
  have whole : ((digits : Nat) : ℚ) / (1 : Nat) = digits := by simp
  obtain ⟨rounded, found, isRounded⟩ := exists_isRounded Nat.one_pos whole normal
  exact ⟨rounded, found, isRounded.exact (holds_natCast short)⟩

/-- A power of ten in double precision: it is close, and exact if it is short. -/
structure IsTenPower (zeros : Nat) (power : Magnitude) : Prop where
  close : |power.value - 10 ^ zeros| ≤ 10 ^ zeros / 2 ^ 53
  exact : zeros ≤ 22 → power.value = 10 ^ zeros

theorem exists_tenPower {zeros : Nat} (few : zeros ≤ 56) :
    ∃ power, tenPower? zeros = some power ∧ IsTenPower zeros power := by
  have one : (1 : ℚ) ≤ 10 ^ zeros := one_le_pow₀ (by norm_num)
  have bound : (10 : ℚ) ^ zeros ≤ 10 ^ 56 := pow_le_pow_right₀ (by norm_num) few
  have normal : double.IsNormal (10 ^ zeros) := by
    apply isNormal_of_le
    · exact le_trans (by norm_num) one
    · exact bound.trans (by norm_num)
  have whole : ((Nat.pow 10 zeros : Nat) : ℚ) / (1 : Nat) = 10 ^ zeros := by simp
  obtain ⟨power, found, isRounded⟩ := exists_isRounded Nat.one_pos whole normal
  refine ⟨power, found, isRounded.close, fun short => isRounded.exact ?_⟩
  -- Its odd part is a power of five.
  refine ⟨5 ^ zeros, zeros, ?_, ?_, ?_⟩
  · calc 5 ^ zeros ≤ 5 ^ 22 := Nat.pow_le_pow_right (by decide) short
      _ < 2 ^ double.precision := by decide
  · exact le_trans (by decide) (Int.natCast_nonneg zeros)
  · rw [zpow_natCast]
    push_cast
    rw [← mul_pow]
    norm_num

theorem IsTenPower.bounds {zeros : Nat} {power : Magnitude} (tenPower : IsTenPower zeros power)
    (few : zeros ≤ 56) : 1 / 2 ≤ power.value ∧ power.value ≤ 2 * 10 ^ 56 := by
  have one : (1 : ℚ) ≤ 10 ^ zeros := one_le_pow₀ (by norm_num)
  have most : (10 : ℚ) ^ zeros ≤ 10 ^ 56 := pow_le_pow_right₀ (by norm_num) few
  obtain ⟨below, above⟩ := abs_le.mp tenPower.close
  constructor <;> linarith

/-- Two roundings of a product. -/
theorem product_close {left power rounded exact : ℚ} (nonneg : 0 ≤ left) (positive : 0 < exact)
    (first : |power - exact| ≤ exact / 2 ^ 53)
    (second : |rounded - left * power| ≤ left * power / 2 ^ 53) :
    |rounded - left * exact| ≤ 3 / 2 ^ 53 * (left * exact) := by
  obtain ⟨lower, upper⟩ := abs_le.mp first
  obtain ⟨below, above⟩ := abs_le.mp second
  have most : left * power ≤ left * (exact * (1 + 1 / 2 ^ 53)) := by
    gcongr
    linarith
  have least : left * (exact * (1 - 1 / 2 ^ 53)) ≤ left * power := by
    gcongr
    linarith
  have whole : 0 ≤ left * exact := by positivity
  apply abs_le.mpr
  constructor <;> linarith

/-- Two roundings of a quotient. -/
theorem quotient_close {left power rounded exact : ℚ} (nonneg : 0 ≤ left) (positive : 0 < exact)
    (first : |power - exact| ≤ exact / 2 ^ 53)
    (second : |rounded - left / power| ≤ left / power / 2 ^ 53) :
    |rounded - left / exact| ≤ 3 / 2 ^ 53 * (left / exact) := by
  obtain ⟨lower, upper⟩ := abs_le.mp first
  obtain ⟨below, above⟩ := abs_le.mp second
  have divisor : 0 < power := by linarith
  have whole : 0 ≤ left / power := by positivity
  have back : left / exact = left / power * (power / exact) := by field_simp
  have most : power / exact ≤ 1 + 1 / 2 ^ 53 := by
    rw [div_le_iff₀ positive]
    linarith
  have least : 1 - 1 / 2 ^ 53 ≤ power / exact := by
    rw [le_div_iff₀ positive]
    linarith
  -- The quotient is worked out with the rounded divisor, which is off by their ratio.
  rw [back]
  obtain ⟨ratio, defRatio⟩ : ∃ ratio, ratio = power / exact := ⟨_, rfl⟩
  rw [← defRatio] at most least ⊢
  have high : left / power * ratio ≤ left / power * (1 + 1 / 2 ^ 53) := by gcongr
  have low : left / power * (1 - 1 / 2 ^ 53) ≤ left / power * ratio := by gcongr
  apply abs_le.mpr
  constructor <;> linarith

/-- What stands in the normal range: up to sixteen digits and a power of ten that is
not too far from one. -/
theorem isNormal_decimal {factor : ℚ} (nonzero : 0 < digits) (short : digits < 2 ^ 53)
    (large : 1 / (2 * 10 ^ 56) ≤ factor) (small : factor ≤ 2 * 10 ^ 56) :
    double.IsNormal (digits * factor) := by
  have one : (1 : ℚ) ≤ digits := by exact_mod_cast nonzero
  have bound : (digits : ℚ) ≤ 2 ^ 53 := by exact_mod_cast short.le
  have positive : 0 < factor := lt_of_lt_of_le (by positivity) large
  apply isNormal_of_le
  · calc (2 : ℚ) ^ (-250 : Int) ≤ 1 * (1 / (2 * 10 ^ 56)) := by norm_num
      _ ≤ digits * factor := by gcongr
  · calc digits * factor ≤ 2 ^ 53 * (2 * 10 ^ 56) := by gcongr
      _ ≤ 2 ^ (250 : Int) := by norm_num

/-- What is left of a decimal in double precision: something close, and the decimal
itself if its power of ten is short and double precision holds it. -/
structure IsWorkedOut (decimal : Decimal) (double : Magnitude) : Prop where
  close : |double.value - decimal.value| ≤ 3 / 2 ^ 53 * decimal.value
  exact : decimal.exponent.natAbs ≤ 22 → BinaryFormat.double.Holds decimal.value →
    double.value = decimal.value

theorem exists_product_tenPower {zeros : Nat} (nonzero : 0 < digits) (short : digits < 2 ^ 53)
    (few : zeros ≤ 56) : ∃ double, doubleOfDecimal? digits (.ofNat zeros) = some double ∧
      IsWorkedOut ⟨digits, .ofNat zeros⟩ double := by
  obtain ⟨left, foundLeft, exactLeft⟩ := exists_digits nonzero short
  obtain ⟨power, foundPower, tenPower⟩ := exists_tenPower few
  obtain ⟨below, above⟩ := tenPower.bounds few
  have normal : double.IsNormal (left.value * power.value) := by
    rw [exactLeft]
    apply isNormal_decimal nonzero short
    · exact le_trans (by norm_num) below
    · exact above
  obtain ⟨product, foundProduct, isRounded⟩ := exists_product normal
  rw [exactLeft] at isRounded
  have value : Decimal.value ⟨digits, .ofNat zeros⟩ = digits * 10 ^ zeros := by
    simp [Decimal.value]
  refine ⟨product, ?_, ?_, ?_⟩
  · have leading : leadingDigits digits.log2 digits (.ofNat zeros) = (digits, .ofNat zeros) :=
      leadingDigits_of_lt (short.trans (by decide)) _
    have kept : left.mantissa ≠ 0 := by
      apply ne_of_gt
      rw [← Magnitude.value_pos, exactLeft]
      exact_mod_cast nonzero
    have within : ¬ maxTenPower < zeros := by
      rw [maxTenPower]
      omega
    simp only [doubleOfDecimal?, leading, foundLeft, Option.bind_eq_bind, Option.bind_some,
      if_neg kept, if_neg within, foundPower, foundProduct]
  · rw [value]
    exact product_close (by positivity) (by positivity) tenPower.close isRounded.close
  · intro short holds
    rw [value] at holds ⊢
    rw [← tenPower.exact short] at holds ⊢
    exact isRounded.exact holds

theorem exists_quotient_tenPower {places : Nat} (nonzero : 0 < digits) (short : digits < 2 ^ 53)
    (few : places + 1 ≤ 56) : ∃ double, doubleOfDecimal? digits (.negSucc places) = some double ∧
      IsWorkedOut ⟨digits, .negSucc places⟩ double := by
  obtain ⟨left, foundLeft, exactLeft⟩ := exists_digits nonzero short
  obtain ⟨power, foundPower, tenPower⟩ := exists_tenPower few
  obtain ⟨below, above⟩ := tenPower.bounds few
  have positive : 0 < power.value := lt_of_lt_of_le (by norm_num) below
  have normal : double.IsNormal (left.value / power.value) := by
    rw [exactLeft, div_eq_mul_one_div]
    apply isNormal_decimal nonzero short
    · gcongr
    · rw [div_le_iff₀ positive]
      linarith
  obtain ⟨quotient, foundQuotient, isRounded⟩ :=
    exists_quotient (Magnitude.value_pos.mp positive) normal
  rw [exactLeft] at isRounded
  have value : Decimal.value ⟨digits, .negSucc places⟩ = digits / 10 ^ (places + 1) := by
    simp [Decimal.value, div_eq_mul_inv]
  refine ⟨quotient, ?_, ?_, ?_⟩
  · have leading : leadingDigits digits.log2 digits (.negSucc places) = (digits, .negSucc places) :=
      leadingDigits_of_lt (short.trans (by decide)) _
    have none : places / maxTenPower = 0 := Nat.div_eq_of_lt (by rw [maxTenPower]; omega)
    have rest : places % maxTenPower = places := Nat.mod_eq_of_lt (by rw [maxTenPower]; omega)
    simp [doubleOfDecimal?, leading, foundLeft, none, divideDecades?, rest, foundPower,
      foundQuotient]
  · rw [value]
    exact quotient_close (by positivity) (by positivity) tenPower.close isRounded.close
  · intro short holds
    rw [value] at holds ⊢
    rw [← tenPower.exact short] at holds ⊢
    exact isRounded.exact holds

theorem exists_doubleOfDecimal {decimal : Decimal} (nonzero : 0 < decimal.digits)
    (short : decimal.digits < 2 ^ 53) (near : decimal.exponent.natAbs ≤ 56) :
    ∃ double, doubleOfDecimal? decimal.digits decimal.exponent = some double ∧
      IsWorkedOut decimal double := by
  obtain ⟨digits, exponent⟩ := decimal
  cases exponent with
  | ofNat zeros => exact exists_product_tenPower nonzero short near
  | negSucc places => exact exists_quotient_tenPower nonzero short near

end PrintConnector.Number
