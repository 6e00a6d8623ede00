import Mathlib.Algebra.Order.Field.Power
import Mathlib.Algebra.Order.Ring.Abs
import Mathlib.Data.Rat.Cast.Order
import Mathlib.Tactic.FieldSimp
import Mathlib.Tactic.Linarith
import Mathlib.Tactic.NormNum
import Mathlib.Tactic.Positivity
import Mathlib.Tactic.Ring
import PrintConnector.Number.Single

namespace PrintConnector.Number

variable {numerator denominator : Nat} {x : ℚ} {exponent : Int}

theorem scaleDown_pos (positive : 0 < denominator) (exponent : Int) :
    0 < (scaleDown numerator denominator exponent).2 := by
  cases exponent with
  | ofNat shift =>
      rw [scaleDown, Nat.shiftLeft_eq]
      positivity
  | negSucc shift => exact positive

theorem scaleDown_value (numerator denominator : Nat) (exponent : Int) :
    ((scaleDown numerator denominator exponent).1 : ℚ) /
        (scaleDown numerator denominator exponent).2 =
      numerator / denominator / 2 ^ exponent := by
  cases exponent with
  | ofNat shift =>
      simp only [scaleDown, Nat.shiftLeft_eq, Int.ofNat_eq_natCast, zpow_natCast]
      push_cast
      rw [div_div]
  | negSucc shift =>
      simp only [scaleDown, Nat.shiftLeft_eq, zpow_negSucc]
      push_cast
      rw [div_inv_eq_mul, div_mul_eq_mul_div]

theorem scaleDown_div_lt_iff (positive : 0 < denominator) (bits : Nat) :
    (scaleDown numerator denominator exponent).1 / (scaleDown numerator denominator exponent).2 <
        2 ^ bits ↔ (numerator : ℚ) / denominator < 2 ^ (exponent + bits) := by
  have fraction : 0 < (scaleDown numerator denominator exponent).2 :=
    scaleDown_pos positive exponent
  have real : (0 : ℚ) < (scaleDown numerator denominator exponent).2 := by exact_mod_cast fraction
  have unit : (0 : ℚ) < 2 ^ exponent := by positivity
  rw [zpow_add₀ (by norm_num), zpow_natCast, mul_comm (2 ^ exponent), ← div_lt_iff₀ unit,
    ← scaleDown_value, div_lt_iff₀ real, Nat.div_lt_iff_lt_mul fraction]
  exact_mod_cast Iff.rfl

/-- The whole number nearest to a fraction, of two equally near ones the even
one. -/
structure IsNearest (whole : Nat) (x : ℚ) : Prop where
  close : |x - whole| ≤ 1 / 2
  tie : |x - whole| = 1 / 2 → whole % 2 = 0

theorem isNearest_self (whole : Nat) : IsNearest whole whole := by
  constructor
  · simp
  · intro half
    norm_num at half

theorem IsNearest.unique {left right : Nat} (one : IsNearest left x) (other : IsNearest right x) :
    left = right := by
  wlog less : left < right generalizing left right with symmetric
  · rcases Nat.lt_or_ge right left with more | same
    · exact (symmetric other one more).symm
    · omega
  have apart : (left : ℚ) + 1 ≤ right := by exact_mod_cast less
  obtain ⟨-, above⟩ := abs_le.mp one.close
  obtain ⟨below, -⟩ := abs_le.mp other.close
  have next : right = left + 1 := by
    have bound : (right : ℚ) ≤ left + 1 := by linarith
    have bound : right ≤ left + 1 := by exact_mod_cast bound
    omega
  -- Both are half a unit away, and two neighbours are not both even.
  have first : x - left = 1 / 2 := by linarith
  have second : x - right = -(1 / 2) := by
    rw [next]
    push_cast
    linarith
  have even := one.tie (by rw [first]; norm_num)
  have even' := other.tie (by rw [second]; norm_num)
  omega

theorem IsNearest.le {whole bound : Nat} (near : IsNearest whole x) (below : x < bound) :
    whole ≤ bound := by
  obtain ⟨low, -⟩ := abs_le.mp near.close
  have less : (whole : ℚ) < (bound + 1 : Nat) := by
    push_cast
    linarith
  have less : whole < bound + 1 := by exact_mod_cast less
  omega

theorem IsNearest.pos {whole : Nat} (near : IsNearest whole x) (one : 1 ≤ x) : 0 < whole := by
  apply Nat.pos_of_ne_zero
  rintro rfl
  obtain ⟨-, above⟩ := abs_le.mp near.close
  rw [Nat.cast_zero, sub_zero] at above
  linarith

theorem IsNearest.bounds {whole : Nat} (near : IsNearest whole (x / 2 ^ exponent)) :
    (whole - 1 / 2) * 2 ^ exponent ≤ x ∧ x ≤ (whole + 1 / 2) * 2 ^ exponent := by
  have unit : (0 : ℚ) < 2 ^ exponent := by positivity
  obtain ⟨below, above⟩ := abs_le.mp near.close
  rw [← le_div_iff₀ unit, ← div_le_iff₀ unit]
  constructor <;> linarith

/-- Nearness, said of the fraction's two halves. -/
theorem isNearest_of_mul {whole : Nat} (positive : 0 < denominator)
    (below : 2 * (whole * denominator) ≤ 2 * numerator + denominator)
    (above : 2 * numerator ≤ 2 * (whole * denominator) + denominator)
    (even : 2 * (whole * denominator) = 2 * numerator + denominator ∨
      2 * numerator = 2 * (whole * denominator) + denominator → whole % 2 = 0) :
    IsNearest whole (numerator / denominator) := by
  have real : (0 : ℚ) < denominator := by exact_mod_cast positive
  have distance : (numerator : ℚ) / denominator - whole =
      (numerator - whole * denominator) / denominator := by
    field_simp
  have bound : |(numerator : ℚ) - whole * denominator| ≤ denominator / 2 := by
    have below : 2 * ((whole : ℚ) * denominator) ≤ 2 * numerator + denominator := by
      exact_mod_cast below
    have above : 2 * (numerator : ℚ) ≤ 2 * (whole * denominator) + denominator := by
      exact_mod_cast above
    exact abs_le.mpr ⟨by linarith, by linarith⟩
  constructor
  · rw [distance, abs_div, abs_of_pos real, div_le_iff₀ real]
    linarith
  · rw [distance, abs_div, abs_of_pos real, div_eq_iff real.ne']
    intro tie
    apply even
    rcases eq_or_eq_neg_of_abs_eq tie with beyond | under
    · right
      have beyond : 2 * (numerator : ℚ) = 2 * (whole * denominator) + denominator := by linarith
      exact_mod_cast beyond
    · left
      have under : 2 * ((whole : ℚ) * denominator) = 2 * numerator + denominator := by linarith
      exact_mod_cast under

theorem roundDiv_isNearest (positive : 0 < denominator) :
    IsNearest (roundDiv numerator denominator) (numerator / denominator) := by
  have split := Nat.div_add_mod' numerator denominator
  have short := Nat.mod_lt numerator positive
  simp only [roundDiv, Bool.or_eq_true, Bool.and_eq_true, decide_eq_true_eq]
  split_ifs with up
  · have next := Nat.add_one_mul (numerator / denominator) denominator
    apply isNearest_of_mul positive
    all_goals omega
  · apply isNearest_of_mul positive
    all_goals omega

theorem roundDiv_eq {whole : Nat} (positive : 0 < denominator)
    (near : IsNearest whole (numerator / denominator)) : roundDiv numerator denominator = whole :=
  (roundDiv_isNearest positive).unique near

theorem numerator_pos (above : 0 < x) (value : (numerator : ℚ) / denominator = x) :
    0 < numerator := by
  apply Nat.pos_of_ne_zero
  intro zero
  rw [zero, Nat.cast_zero, zero_div] at value
  exact above.ne value

theorem pow_log2_le (positive : 0 < numerator) : (2 : ℚ) ^ (numerator.log2 : Int) ≤ numerator := by
  rw [zpow_natCast]
  exact_mod_cast Nat.log2_self_le positive.ne'

theorem lt_pow_log2 (numerator : Nat) : (numerator : ℚ) < 2 ^ ((numerator.log2 : Int) + 1) := by
  have below : numerator < 2 ^ (numerator.log2 + 1) := Nat.lt_log2_self
  exact_mod_cast below

/-- The logarithms of the two halves place a fraction between powers of two. -/
theorem log2_bounds (nonzero : 0 < numerator) (positive : 0 < denominator) :
    (2 : ℚ) ^ ((numerator.log2 : Int) - denominator.log2 - 1) ≤ numerator / denominator ∧
      (numerator : ℚ) / denominator < 2 ^ ((numerator.log2 : Int) - denominator.log2 + 1) := by
  have real : (0 : ℚ) < denominator := by exact_mod_cast positive
  have two : (2 : ℚ) ≠ 0 := by norm_num
  constructor
  · rw [le_div_iff₀ real]
    calc (2 : ℚ) ^ ((numerator.log2 : Int) - denominator.log2 - 1) * denominator
        ≤ 2 ^ ((numerator.log2 : Int) - denominator.log2 - 1) *
            2 ^ ((denominator.log2 : Int) + 1) := by
          have size := (lt_pow_log2 denominator).le
          gcongr
      _ = 2 ^ (numerator.log2 : Int) := by
          rw [← zpow_add₀ two]
          congr 1
          omega
      _ ≤ numerator := pow_log2_le nonzero
  · rw [div_lt_iff₀ real]
    calc (numerator : ℚ) < 2 ^ ((numerator.log2 : Int) + 1) := lt_pow_log2 numerator
      _ = 2 ^ ((numerator.log2 : Int) - denominator.log2 + 1) * 2 ^ (denominator.log2 : Int) := by
          rw [← zpow_add₀ two]
          congr 1
          omega
      _ ≤ 2 ^ ((numerator.log2 : Int) - denominator.log2 + 1) * denominator := by
          have size := pow_log2_le positive
          gcongr

/-- The exponent at which a number is rounded. -/
structure BinaryFormat.IsExponent (format : BinaryFormat) (x : ℚ) (exponent : Int) : Prop where
  least : format.minExponent ≤ exponent
  below : x < 2 ^ (exponent + format.precision)
  full : format.minExponent < exponent → 2 ^ (exponent + format.precision - 1) ≤ x

namespace BinaryFormat

variable {format : BinaryFormat} {other : Int}

theorem IsExponent.le (one : format.IsExponent x exponent) (two : format.IsExponent x other) :
    exponent ≤ other := by
  by_contra more
  have more : other < exponent := not_le.mp more
  have full := one.full (two.least.trans_lt more)
  have less : exponent + format.precision - 1 < other + format.precision :=
    (zpow_lt_zpow_iff_right₀ (by norm_num : (1 : ℚ) < 2)).mp (full.trans_lt two.below)
  omega

theorem IsExponent.unique (one : format.IsExponent x exponent) (two : format.IsExponent x other) :
    exponent = other :=
  Int.le_antisymm (one.le two) (two.le one)

theorem exponentFor_isExponent (nonzero : 0 < numerator) (positive : 0 < denominator) :
    format.IsExponent (numerator / denominator) (format.exponentFor numerator denominator) := by
  obtain ⟨low, defLow⟩ :
      ∃ low : Int, low = (numerator.log2 : Int) - denominator.log2 - format.precision := ⟨_, rfl⟩
  obtain ⟨above, below⟩ := log2_bounds nonzero positive
  have full : (numerator.log2 : Int) - denominator.log2 - 1 = low + format.precision - 1 := by omega
  have beyond : (numerator.log2 : Int) - denominator.log2 + 1 = low + 1 + format.precision := by
    omega
  rw [full] at above
  rw [beyond] at below
  rw [exponentFor, ← defLow]
  simp only [Nat.pow_eq, scaleDown_div_lt_iff positive]
  split_ifs with short
  · refine ⟨le_max_right .., ?_, fun more => ?_⟩
    · apply short.trans_le
      gcongr
      · norm_num
      · exact le_max_left ..
    · rwa [max_eq_left (by omega)]
  · refine ⟨le_max_right .., ?_, fun more => ?_⟩
    · apply below.trans_le
      gcongr
      · norm_num
      · exact le_max_left ..
    · rw [max_eq_left (by omega)]
      have same : low + 1 + format.precision - 1 = low + format.precision := by omega
      rw [same]
      exact not_lt.mp short

end BinaryFormat

/-- The number that a magnitude stands for. -/
def Magnitude.value (magnitude : Magnitude) : ℚ :=
  magnitude.mantissa * 2 ^ magnitude.exponent

theorem Magnitude.value_pos {magnitude : Magnitude} :
    0 < magnitude.value ↔ 0 < magnitude.mantissa := by
  rw [value, mul_pos_iff_of_pos_right (by positivity), Nat.cast_pos]

namespace BinaryFormat

variable {format : BinaryFormat} {mantissa : Nat} {rounded : Magnitude}

theorem nearest?_eq (nonzero : 0 < numerator) (positive : 0 < denominator)
    (place : format.IsExponent (numerator / denominator) exponent)
    (near : IsNearest mantissa (numerator / denominator / 2 ^ exponent)) :
    format.nearest? numerator denominator =
      let rounded : Magnitude :=
        if mantissa < 2 ^ format.precision then ⟨mantissa, exponent⟩
        else ⟨2 ^ (format.precision - 1), exponent + 1⟩
      if rounded.exponent ≤ format.maxExponent then some rounded else none := by
  have same : format.exponentFor numerator denominator = exponent :=
    (exponentFor_isExponent nonzero positive).unique place
  rw [← scaleDown_value] at near
  have nearest := roundDiv_eq (scaleDown_pos positive exponent) near
  simp only [nearest?, if_neg nonzero.ne', same, nearest]
  rfl

/-- The numbers that the format holds, but for the greatest. -/
def Holds (format : BinaryFormat) (x : ℚ) : Prop :=
  ∃ (mantissa : Nat) (exponent : Int), mantissa < 2 ^ format.precision ∧
    format.minExponent ≤ exponent ∧ x = mantissa * 2 ^ exponent

/-- The numbers whose mantissa has full precision, but for the greatest. -/
structure IsNormal (format : BinaryFormat) (x : ℚ) : Prop where
  large : 2 ^ (format.minExponent + format.precision - 1) ≤ x
  small : x < 2 ^ (format.maxExponent + format.precision - 1)

/-- What rounding does to a number in the normal range. -/
structure IsRounded (format : BinaryFormat) (x : ℚ) (rounded : Magnitude) : Prop where
  close : |rounded.value - x| ≤ x / 2 ^ format.precision
  exact : format.Holds x → rounded.value = x

theorem IsNormal.exponent_lt (normal : format.IsNormal x) (place : format.IsExponent x exponent) :
    exponent < format.maxExponent := by
  have one : (1 : ℚ) < 2 := by norm_num
  rcases place.least.eq_or_lt with same | more
  · have range := (zpow_lt_zpow_iff_right₀ one).mp (normal.large.trans_lt normal.small)
    omega
  · have range := (zpow_lt_zpow_iff_right₀ one).mp ((place.full more).trans_lt normal.small)
    omega

theorem IsNormal.full (normal : format.IsNormal x) (place : format.IsExponent x exponent) :
    2 ^ (exponent + format.precision - 1) ≤ x := by
  rcases place.least.eq_or_lt with same | more
  · rw [← same]
    exact normal.large
  · exact place.full more

/-- A number of the format is a whole multiple of a place, or it is too small for a
mantissa of full precision there. -/
theorem Holds.whole_or_small (holds : format.Holds x) (exponent : Int) :
    (∃ whole : Nat, x = whole * 2 ^ exponent) ∨
      format.minExponent < exponent ∧ x < 2 ^ (exponent + format.precision - 1) := by
  obtain ⟨mantissa, own, short, least, rfl⟩ := holds
  have two : (2 : ℚ) ≠ 0 := by norm_num
  rcases le_or_gt exponent own with fine | coarse
  · left
    obtain ⟨shift, rfl⟩ := Int.le.dest fine
    refine ⟨mantissa * 2 ^ shift, ?_⟩
    rw [zpow_add₀ two, zpow_natCast]
    push_cast
    ring
  · right
    refine ⟨least.trans_lt coarse, ?_⟩
    calc (mantissa : ℚ) * 2 ^ own < 2 ^ format.precision * 2 ^ own := by
          have short : (mantissa : ℚ) < 2 ^ format.precision := by exact_mod_cast short
          gcongr
      _ = 2 ^ ((format.precision : Int) + own) := by rw [zpow_add₀ two, zpow_natCast]
      _ ≤ 2 ^ (exponent + format.precision - 1) := by
          gcongr
          · norm_num
          · omega

/-- Its last place is no coarser than that of the exponent at which it is rounded. -/
theorem Holds.isWhole (holds : format.Holds x) (place : format.IsExponent x exponent) :
    ∃ whole : Nat, x / 2 ^ exponent = whole := by
  have unit : (2 : ℚ) ^ exponent ≠ 0 := by positivity
  rcases holds.whole_or_small exponent with ⟨whole, same⟩ | ⟨more, small⟩
  · exact ⟨whole, (div_eq_iff unit).mpr same⟩
  · exact absurd (place.full more) (not_le.mpr small)

theorem isRounded_of_isNearest (place : format.IsExponent x exponent)
    (full : 2 ^ (exponent + format.precision - 1) ≤ x)
    (near : IsNearest mantissa (x / 2 ^ exponent))
    (value : rounded.value = mantissa * 2 ^ exponent) : format.IsRounded x rounded where
  close := by
    have two : (2 : ℚ) ≠ 0 := by norm_num
    have unit : (0 : ℚ) < 2 ^ exponent := by positivity
    have moved : rounded.value - x = -((x / 2 ^ exponent - mantissa) * 2 ^ exponent) := by
      rw [value]
      field_simp
      ring
    have place : (2 : ℚ) ^ (exponent + format.precision - 1) =
        1 / 2 * 2 ^ exponent * 2 ^ format.precision := by
      rw [zpow_sub₀ two, zpow_add₀ two, zpow_natCast]
      ring
    rw [moved, abs_neg, abs_mul, abs_of_pos unit, le_div_iff₀ (by positivity)]
    calc |x / 2 ^ exponent - mantissa| * 2 ^ exponent * 2 ^ format.precision
        ≤ 1 / 2 * 2 ^ exponent * 2 ^ format.precision := by
          have half := near.close
          gcongr
      _ ≤ x := place ▸ full
  exact := by
    intro holds
    obtain ⟨whole, same⟩ := holds.isWhole place
    have own : mantissa = whole := near.unique (same ▸ isNearest_self whole)
    rw [value, own, ← same]
    field_simp

/-- Rounding up carries into the next exponent at most. -/
theorem IsExponent.mantissa_le (place : format.IsExponent x exponent)
    (near : IsNearest mantissa (x / 2 ^ exponent)) : mantissa ≤ 2 ^ format.precision := by
  apply near.le
  rw [div_lt_iff₀ (by positivity)]
  have below := place.below
  rw [zpow_add₀ (by norm_num), zpow_natCast, mul_comm] at below
  exact_mod_cast below

theorem value_carried (precise : 0 < format.precision) (exponent : Int) :
    (⟨2 ^ (format.precision - 1), exponent + 1⟩ : Magnitude).value =
      (2 ^ format.precision : Nat) * 2 ^ exponent := by
  rw [Magnitude.value, zpow_add_one₀ (by norm_num)]
  push_cast
  rw [← Nat.sub_add_cancel precise, pow_succ]
  simp only [Nat.add_sub_cancel]
  ring

theorem exists_nearest? (nonzero : 0 < numerator) (positive : 0 < denominator)
    (precise : 0 < format.precision) (normal : format.IsNormal (numerator / denominator)) :
    ∃ rounded, format.nearest? numerator denominator = some rounded ∧
      format.IsRounded (numerator / denominator) rounded := by
  obtain ⟨exponent, place⟩ : ∃ exponent, format.IsExponent (numerator / denominator) exponent :=
    ⟨_, exponentFor_isExponent nonzero positive⟩
  obtain ⟨mantissa, near⟩ :
      ∃ mantissa, IsNearest mantissa ((numerator : ℚ) / denominator / 2 ^ exponent) := by
    rw [← scaleDown_value]
    exact ⟨_, roundDiv_isNearest (scaleDown_pos positive exponent)⟩
  have bounded := normal.exponent_lt place
  have full := normal.full place
  rw [nearest?_eq nonzero positive place near]
  by_cases short : mantissa < 2 ^ format.precision
  · refine ⟨⟨mantissa, exponent⟩, ?_, isRounded_of_isNearest place full near rfl⟩
    simp only [if_pos short]
    rw [if_pos bounded.le]
  · have carried : mantissa = 2 ^ format.precision :=
      Nat.le_antisymm (place.mantissa_le near) (not_lt.mp short)
    refine ⟨⟨2 ^ (format.precision - 1), exponent + 1⟩, ?_,
      isRounded_of_isNearest place full near ?_⟩
    · simp only [if_neg short]
      rw [if_pos (by exact bounded)]
    · rw [carried, value_carried precise]

end BinaryFormat

end PrintConnector.Number
