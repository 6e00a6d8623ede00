import PrintConnector.Proofs.Number.Shortest

namespace PrintConnector.Number.BinaryFormat

variable {format : BinaryFormat} {denominator mantissa : Nat} {exponent : Int} {x y : ℚ}
  {rounded : Magnitude}

/-- A magnitude as the format writes it. -/
structure IsStored (format : BinaryFormat) (magnitude : Magnitude) : Prop where
  short : magnitude.mantissa < 2 ^ format.precision
  least : format.minExponent ≤ magnitude.exponent
  most : magnitude.exponent ≤ format.maxExponent
  full : format.minExponent < magnitude.exponent →
    2 ^ (format.precision - 1) ≤ magnitude.mantissa

/-- A magnitude of the format to which no other number that it holds is closer. -/
structure IsClosest (format : BinaryFormat) (x : ℚ) (rounded : Magnitude) : Prop where
  stored : format.IsStored rounded
  least : ∀ y, format.Holds y → |rounded.value - x| ≤ |y - x|
  close : |rounded.value - x| ≤ x / 2 ^ format.precision + 2 ^ (format.minExponent - 1)

theorem IsStored.holds (stored : format.IsStored rounded) : format.Holds rounded.value :=
  ⟨rounded.mantissa, rounded.exponent, stored.short, stored.least, rfl⟩

/-- Rounding moves nothing over a number of the format. -/
theorem IsClosest.le_value (closest : format.IsClosest x rounded) (holds : format.Holds y)
    (below : y ≤ x) : y ≤ rounded.value := by
  have least := closest.least y holds
  rw [abs_sub_comm y, abs_of_nonneg (sub_nonneg.mpr below)] at least
  linarith [neg_abs_le (rounded.value - x)]

theorem power_split (precise : 0 < format.precision) (exponent : Int) :
    (2 : ℚ) ^ (exponent + format.precision - 1) =
      (2 ^ (format.precision - 1) : Nat) * 2 ^ exponent := by
  have bits : exponent + format.precision - 1 =
      ((format.precision - 1 : Nat) : Int) + exponent := by omega
  rw [bits, zpow_add₀ (by norm_num), zpow_natCast]
  push_cast
  rfl

theorem distance_eq (mantissa : Nat) (exponent : Int) (x : ℚ) :
    |mantissa * 2 ^ exponent - x| = |(mantissa : ℚ) - x / 2 ^ exponent| * 2 ^ exponent := by
  have unit : (0 : ℚ) < 2 ^ exponent := by positivity
  rw [← abs_of_pos unit, ← abs_mul, abs_of_pos unit, sub_mul, div_mul_cancel₀ _ unit.ne']

theorem distance_le_of_isNearest (precise : 0 < format.precision)
    (place : format.IsExponent x exponent) (near : IsNearest mantissa (x / 2 ^ exponent))
    (holds : format.Holds y) : |mantissa * 2 ^ exponent - x| ≤ |y - x| := by
  have whole (other : Nat) : |mantissa * 2 ^ exponent - x| ≤ |other * 2 ^ exponent - x| := by
    rw [distance_eq, distance_eq]
    exact mul_le_mul_of_nonneg_right (near.least other) (by positivity)
  rcases holds.whole_or_small exponent with ⟨other, rfl⟩ | ⟨more, small⟩
  · exact whole other
  · -- The least number with a full mantissa is between the two.
    have full := place.full more
    have beside := whole (2 ^ (format.precision - 1))
    rw [← power_split precise, abs_sub_comm (2 ^ _) x,
      abs_of_nonneg (sub_nonneg.mpr full)] at beside
    rw [abs_sub_comm y, abs_of_nonneg (show 0 ≤ x - y by linarith)]
    linarith

theorem distance_small (place : format.IsExponent x exponent)
    (near : IsNearest mantissa (x / 2 ^ exponent)) (nonneg : 0 ≤ x) :
    |mantissa * 2 ^ exponent - x| ≤ x / 2 ^ format.precision + 2 ^ (format.minExponent - 1) := by
  have two : (2 : ℚ) ≠ 0 := by norm_num
  have half : |mantissa * 2 ^ exponent - x| ≤ 2 ^ (exponent - 1) := by
    have close := near.close
    rw [distance_eq, abs_sub_comm, zpow_sub_one₀ two, mul_comm ((2 : ℚ) ^ exponent),
      ← one_div]
    gcongr
  rcases place.least.eq_or_lt with same | more
  · rw [same]
    have part : (0 : ℚ) ≤ x / 2 ^ format.precision := by positivity
    linarith
  · have part : (2 : ℚ) ^ (exponent - 1) ≤ x / 2 ^ format.precision := by
      rw [le_div_iff₀ (by positivity), ← zpow_natCast, ← zpow_add₀ two]
      have full := place.full more
      have same : exponent - 1 + format.precision = exponent + format.precision - 1 := by omega
      rwa [same]
    have least : (0 : ℚ) < 2 ^ (format.minExponent - 1) := by positivity
    linarith

theorem isClosest_of_isNearest (precise : 0 < format.precision)
    (place : format.IsExponent x exponent) (near : IsNearest mantissa (x / 2 ^ exponent))
    (nonneg : 0 ≤ x) (stored : format.IsStored rounded)
    (value : rounded.value = mantissa * 2 ^ exponent) : format.IsClosest x rounded where
  stored := stored
  least _ holds := value ▸ distance_le_of_isNearest precise place near holds
  close := value ▸ distance_small place near nonneg

theorem le_of_isNearest {bound : Nat} (near : IsNearest mantissa x) (above : bound ≤ x) :
    bound ≤ mantissa := by
  obtain ⟨-, close⟩ := abs_le.mp near.close
  have more : (bound : ℚ) < (mantissa + 1 : Nat) := by
    push_cast
    linarith
  have more : bound < mantissa + 1 := by exact_mod_cast more
  omega

/-- Below a number with a full mantissa there is none until one place before it. -/
theorem Holds.le_pred (holds : format.Holds x) (precise : 0 < format.precision)
    (full : 2 ^ (format.precision - 1) < mantissa) (below : x < mantissa * 2 ^ exponent) :
    x ≤ (mantissa - 1) * 2 ^ exponent := by
  have unit : (0 : ℚ) < 2 ^ exponent := by positivity
  rcases holds.whole_or_small exponent with ⟨whole, rfl⟩ | ⟨-, small⟩
  · have less : (whole : ℚ) < mantissa := lt_of_mul_lt_mul_right below unit.le
    have less : whole + 1 ≤ mantissa := by exact_mod_cast less
    have less : (whole : ℚ) + 1 ≤ mantissa := by exact_mod_cast less
    gcongr
    linarith
  · have full : ((2 ^ (format.precision - 1) : Nat) : ℚ) + 1 ≤ mantissa := by exact_mod_cast full
    rw [power_split precise] at small
    refine small.le.trans ?_
    gcongr
    linarith

/-- What is past the middle before a number is rounded to it or up. -/
theorem IsClosest.le_value_of_beyond (closest : format.IsClosest x rounded)
    (precise : 0 < format.precision) (full : 2 ^ (format.precision - 1) < mantissa)
    (holds : format.Holds (mantissa * 2 ^ exponent))
    (beyond : (mantissa - 1 / 2) * 2 ^ exponent < x) :
    mantissa * 2 ^ exponent ≤ rounded.value := by
  by_contra less
  have before := closest.stored.holds.le_pred precise full (not_le.mp less)
  have least := closest.least _ holds
  have unit : (0 : ℚ) < 2 ^ exponent := by positivity
  rw [abs_sub_comm, abs_of_nonneg (by linarith : (0 : ℚ) ≤ x - rounded.value)] at least
  rcases le_abs'.mp least with low | high
  · linarith
  · linarith

/-- Every fraction is rounded to the closest number, or it is beyond the greatest. -/
theorem nearest?_closest (format : BinaryFormat) (numerator : Nat)
    (precise : 0 < format.precision) (range : format.minExponent < format.maxExponent)
    (positive : 0 < denominator) :
    (∃ rounded, format.nearest? numerator denominator = some rounded ∧
      format.IsClosest (numerator / denominator) rounded) ∨
    (format.nearest? numerator denominator = none ∧
      2 ^ (format.maxExponent + format.precision - 1) ≤ (numerator : ℚ) / denominator) := by
  rcases Nat.eq_zero_or_pos numerator with rfl | nonzero
  · left
    refine ⟨⟨0, format.minExponent⟩, if_pos rfl, ?_⟩
    have zero : ((0 : Nat) : ℚ) / denominator = 0 := by simp
    have value : (⟨0, format.minExponent⟩ : Magnitude).value = 0 := by simp [Magnitude.value]
    rw [zero]
    refine ⟨⟨by positivity, le_rfl, range.le, fun more => absurd more (lt_irrefl _)⟩, ?_, ?_⟩
    · intro y _
      rw [value, sub_zero, abs_zero]
      positivity
    · rw [value, sub_zero, abs_zero]
      positivity
  obtain ⟨exponent, place⟩ : ∃ exponent, format.IsExponent (numerator / denominator) exponent :=
    ⟨_, exponentFor_isExponent nonzero positive⟩
  obtain ⟨mantissa, near⟩ :
      ∃ mantissa, IsNearest mantissa ((numerator : ℚ) / denominator / 2 ^ exponent) := by
    rw [← scaleDown_value]
    exact ⟨_, roundDiv_isNearest (scaleDown_pos positive exponent)⟩
  have nonneg : (0 : ℚ) ≤ numerator / denominator := by positivity
  have huge (more : format.maxExponent ≤ exponent) :
      2 ^ (format.maxExponent + format.precision - 1) ≤ (numerator : ℚ) / denominator := by
    refine le_trans ?_ (place.full (range.trans_le more))
    apply zpow_le_zpow_right₀ (by norm_num)
    omega
  rw [nearest?_eq nonzero positive place near]
  by_cases short : mantissa < 2 ^ format.precision
  · simp only [if_pos short]
    by_cases most : exponent ≤ format.maxExponent
    · left
      refine ⟨⟨mantissa, exponent⟩, if_pos most, ?_⟩
      refine isClosest_of_isNearest precise place near nonneg ⟨short, place.least, most, ?_⟩ rfl
      intro more
      have full := place.full more
      rw [power_split precise, ← le_div_iff₀ (by positivity)] at full
      exact le_of_isNearest near full
    · exact .inr ⟨if_neg most, huge (not_le.mp most).le⟩
  · simp only [if_neg short]
    by_cases most : exponent + 1 ≤ format.maxExponent
    · left
      have carried : mantissa = 2 ^ format.precision :=
        Nat.le_antisymm (place.mantissa_le near) (not_lt.mp short)
      refine ⟨⟨2 ^ (format.precision - 1), exponent + 1⟩, if_pos most, ?_⟩
      refine isClosest_of_isNearest precise place near nonneg
        ⟨?_, place.least.trans (by simp), most, fun _ => le_rfl⟩ ?_
      · exact Nat.pow_lt_pow_right (by decide) (by omega)
      · rw [carried, value_carried precise]
    · exact .inr ⟨if_neg most, huge (by omega)⟩

end PrintConnector.Number.BinaryFormat
