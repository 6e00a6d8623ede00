import PrintConnector.Ppd.Length
import PrintConnector.Proofs.Number.Arithmetic

namespace PrintConnector.Ppd

open PrintConnector.Number Single

variable {exact length factor : ℚ} {first scaled : Single}

/-- A whole number for an exact length in micrometres: near it, or the greatest that 32
bits hold. -/
structure IsHeld (exact : ℚ) (microns : Int) : Prop where
  nonneg : 0 ≤ microns
  bounded : microns ≤ 2147483647
  near : microns < 2147483647 → |microns - exact| ≤ 1 / 2 + (exact + 1) / 2 ^ 22
  long : microns = 2147483647 → 2147483000 ≤ exact
  /-- It is the greatest wherever the exact length, a half going up, is beyond it. -/
  tooLong : 2147483647 < ⌊exact + 1 / 2⌋ → microns = 2147483647

theorem rounds_toSingle (value : Decimal) : Rounds value.value (toSingle value) :=
  rounds_ofDecimal value

theorem exists_half : ∃ magnitude, half.reading = .finite false magnitude ∧
    magnitude.value = 1 / 2 ∧ 0 < magnitude.mantissa := by
  have rounds : Rounds (1 / 2) half := by
    have value : (0.5 : Decimal).value = 1 / 2 := by
      norm_num [Decimal.value, OfScientific.ofScientific]
    exact value ▸ rounds_toSingle 0.5
  obtain ⟨magnitude, reading, value⟩ :=
    rounds.exact ⟨1, -1, by decide, by decide, by norm_num⟩ (by norm_num)
  refine ⟨magnitude, reading, value, ?_⟩
  rw [← Magnitude.value_pos, value]
  norm_num

theorem roundHalfUp_of_finite {magnitude : Magnitude}
    (reading : (scaled.add half).reading = .finite false magnitude) :
    roundHalfUp scaled = min ⌊magnitude.value⌋ 2147483647 :=
  toInt32_of_finite reading

/-- What reaches the bound stays there when a half is added. -/
theorem roundHalfUp_of_atLeast (above : AtLeast 2147483648 scaled) :
    roundHalfUp scaled = 2147483647 := by
  obtain ⟨added, reading, -, nonzero⟩ := exists_half
  exact (above.add reading nonzero ⟨1, 31, by decide, by decide, by norm_num⟩).toInt32

/-- The error of a rounding is scaled with the number. -/
theorem close_mul {start : ℚ} (positive : 0 < factor) (most : factor ≤ 25400)
    (close : |start - length| ≤ length / 2 ^ 24 + 2 ^ (-150 : Int)) :
    |start * factor - length * factor| ≤
      length * factor / 2 ^ 24 + 25400 * 2 ^ (-150 : Int) := by
  have place : (2 : ℚ) ^ (-150 : Int) * factor ≤ 2 ^ (-150 : Int) * 25400 := by gcongr
  calc |start * factor - length * factor| = |start - length| * factor := by
        rw [← sub_mul, abs_mul, abs_of_pos positive]
    _ ≤ (length / 2 ^ 24 + 2 ^ (-150 : Int)) * factor := by gcongr
    _ = length * factor / 2 ^ 24 + 2 ^ (-150 : Int) * factor := by ring
    _ ≤ length * factor / 2 ^ 24 + 25400 * 2 ^ (-150 : Int) := by linarith

/-- Three roundings move a length by less than one part in four million. -/
theorem exists_sum (rounds : Rounds length first) (isScaled : IsScaled factor first scaled)
    (nonneg : 0 ≤ length) (least : 1 / 72 ≤ factor) (most : factor ≤ 25400)
    (short : length * factor < 2 ^ (40 : Int)) :
    ∃ sum, (scaled.add half).reading = .finite false sum ∧ 0 ≤ sum.value ∧
      |sum.value - 1 / 2 - length * factor| ≤ (length * factor + 1) / 2 ^ 22 := by
  have positive : 0 < factor := by linarith
  have product : 0 ≤ length * factor := mul_nonneg nonneg positive.le
  have part : length * (1 / 72) ≤ length * factor := by gcongr
  have bound : (2 : ℚ) ^ (40 : Int) * 72 < 2 ^ (127 : Int) := by norm_num
  obtain ⟨start, reading, close⟩ := rounds.near (by linarith)
  obtain ⟨low, high⟩ := abs_le.mp (close_mul positive most close)
  have tiny : (25400 : ℚ) * 2 ^ (-150 : Int) ≤ 1 / 2 ^ 100 := by norm_num
  obtain ⟨middle, reading, close⟩ := (isScaled.finite start reading).near (by linarith)
  obtain ⟨below, above⟩ := abs_le.mp close
  obtain ⟨added, half_reading, value, nonzero⟩ := exists_half
  have rounds := rounds_add reading half_reading nonzero
  rw [value] at rounds
  obtain ⟨sum, reading, close⟩ := rounds.near (by linarith)
  obtain ⟨lower, upper⟩ := abs_le.mp close
  refine ⟨sum, reading, ?_, abs_le.mpr ⟨by linarith, by linarith⟩⟩
  rw [Magnitude.value]
  positivity

theorem isHeld_of_sum {sum : ℚ} (nonneg : 0 ≤ sum)
    (close : |sum - 1 / 2 - exact| ≤ (exact + 1) / 2 ^ 22)
    (tooLong : 2147483647 < ⌊exact + 1 / 2⌋ → min ⌊sum⌋ 2147483647 = 2147483647) :
    IsHeld exact (min ⌊sum⌋ 2147483647) where
  nonneg := le_min (Int.floor_nonneg.mpr nonneg) (by decide)
  bounded := min_le_right ..
  near := by
    intro less
    have whole : ⌊sum⌋ < 2147483647 := (min_lt_iff.mp less).resolve_right (lt_irrefl _)
    rw [min_eq_left whole.le]
    have below := Int.floor_le sum
    have above := Int.lt_floor_add_one sum
    obtain ⟨lower, upper⟩ := abs_le.mp close
    exact abs_le.mpr ⟨by linarith, by linarith⟩
  long := by
    intro held
    have reached : 2147483647 ≤ ⌊sum⌋ := min_eq_right_iff.mp held
    have reached : (2147483647 : ℚ) ≤ sum := by exact_mod_cast Int.le_floor.mp reached
    obtain ⟨lower, upper⟩ := abs_le.mp close
    linarith
  tooLong := tooLong

/-- A number whose scaled length reaches the bound, while the middle before it is not
too long. -/
structure IsLimit (factor : ℚ) (mantissa : Nat) (exponent : Int) : Prop where
  full : 2 ^ 23 < mantissa
  holds : BinaryFormat.single.Holds (mantissa * 2 ^ exponent)
  reaches : 2147483648 ≤ mantissa * 2 ^ exponent * factor
  below : (mantissa - 1 / 2) * 2 ^ exponent * factor < 2147483647 + 1 / 2

/-- The numbers from the bound to the middle before it are all rounded to what reaches
the bound, so that no rounding takes a length that is too long below it. -/
theorem roundHalfUp_of_tooLong {mantissa : Nat} {exponent : Int} (rounds : Rounds length first)
    (isScaled : IsScaled factor first scaled) (positive : 0 < factor)
    (limit : IsLimit factor mantissa exponent) (tooLong : 2147483647 + 1 / 2 ≤ length * factor) :
    roundHalfUp scaled = 2147483647 := by
  have beyond : (mantissa - 1 / 2) * 2 ^ exponent < length :=
    lt_of_mul_lt_mul_right (limit.below.trans_le tooLong) positive.le
  have above := rounds.atLeast_of_beyond limit.full limit.holds beyond
  exact roundHalfUp_of_atLeast
    (isScaled.atLeast positive.le above ⟨1, 31, by decide, by decide, by norm_num⟩ limit.reaches)

theorem roundHalfUp_isHeld {mantissa : Nat} {exponent : Int} (rounds : Rounds length first)
    (isScaled : IsScaled factor first scaled) (nonneg : 0 ≤ length) (least : 1 / 72 ≤ factor)
    (most : factor ≤ 25400) (limit : IsLimit factor mantissa exponent) :
    IsHeld (length * factor) (roundHalfUp scaled) := by
  have positive : 0 < factor := by linarith
  have held := roundHalfUp_of_tooLong rounds isScaled positive limit
  have tooLong (beyond : 2147483647 < ⌊length * factor + 1 / 2⌋) :
      roundHalfUp scaled = 2147483647 := by
    have reached : (2147483648 : Int) ≤ ⌊length * factor + 1 / 2⌋ := beyond
    have reached : (2147483648 : ℚ) ≤ length * factor + 1 / 2 := by
      exact_mod_cast Int.le_floor.mp reached
    exact held (by linarith)
  rcases lt_or_ge (length * factor) (2 ^ (40 : Int)) with short | huge
  · obtain ⟨sum, reading, sum_nonneg, close⟩ :=
      exists_sum rounds isScaled nonneg least most short
    rw [roundHalfUp_of_finite reading] at tooLong ⊢
    exact isHeld_of_sum sum_nonneg close tooLong
  · have bound : (2147483647 : ℚ) + 1 / 2 ≤ 2 ^ (40 : Int) := by norm_num
    rw [held (bound.trans huge)]
    exact ⟨by decide, le_rfl, fun less => absurd less (lt_irrefl _), fun _ => by linarith,
      fun _ => rfl⟩

/-- A whole number that single precision holds. -/
theorem exists_ofInt (number : Nat) (some : 0 < number) (short : number < 2 ^ 24) :
    ∃ magnitude, (Single.ofInt number).reading = .finite false magnitude ∧
      magnitude.value = number ∧ 0 < magnitude.mantissa := by
  have rounds : Rounds number (Single.ofInt number) := rounds_ofInt (Int.natCast_nonneg number)
  have real : (number : ℚ) < 2 ^ 24 := by exact_mod_cast short
  have bound : (2 : ℚ) ^ 24 < 2 ^ (127 : Int) := by norm_num
  obtain ⟨magnitude, reading, value⟩ := rounds.exact (holds_natCast short) (real.trans bound)
  refine ⟨magnitude, reading, value, ?_⟩
  rw [← Magnitude.value_pos, value]
  exact_mod_cast some

theorem exists_isLimit (unit : LengthUnit) :
    ∃ mantissa exponent, IsLimit unit.microns mantissa exponent := by
  cases unit with
  | inches =>
      refine ⟨10821965, -7, by decide, ⟨10821965, -7, by decide, by decide, rfl⟩, ?_, ?_⟩
      all_goals norm_num [LengthUnit.microns]
  | millimetres =>
      refine ⟨8589935, -2, by decide, ⟨8589935, -2, by decide, by decide, rfl⟩, ?_, ?_⟩
      all_goals norm_num [LengthUnit.microns]

/-- A length in micrometres, exactly. -/
def LengthUnit.exactMicrons (unit : LengthUnit) (value : Decimal) : ℚ :=
  value.value * unit.microns

theorem LengthUnit.toMicrons_isHeld (unit : LengthUnit) (value : Decimal) :
    IsHeld (unit.exactMicrons value) (unit.toMicrons (toSingle value)) := by
  have nonneg : 0 ≤ value.value := by
    rw [Decimal.value]
    positivity
  have range : 1000 ≤ unit.microns ∧ unit.microns ≤ 25400 := by cases unit <;> decide
  have least : (1000 : ℚ) ≤ unit.microns := by exact_mod_cast range.1
  have most : (unit.microns : ℚ) ≤ 25400 := by exact_mod_cast range.2
  obtain ⟨mantissa, exponent, limit⟩ := exists_isLimit unit
  obtain ⟨magnitude, reading, same, nonzero⟩ :=
    exists_ofInt unit.microns (by omega) (by omega)
  have isScaled : IsScaled unit.microns (toSingle value)
      ((toSingle value).mul (Single.ofInt unit.microns)) :=
    same ▸ isScaled_mul reading nonzero
  exact roundHalfUp_isHeld (rounds_toSingle value) isScaled nonneg (by linarith) most limit

/-- Points in micrometres, exactly. -/
def exactPoints (points : Int) : ℚ :=
  points * 25400 / 72

theorem pointsToMicrons_isHeld {points : Int} (nonneg : 0 ≤ points) :
    IsHeld (exactPoints points) (pointsToMicrons points) := by
  have product : 0 ≤ points * 25400 := by omega
  have real : (0 : ℚ) ≤ (points * 25400 : Int) := by exact_mod_cast product
  obtain ⟨magnitude, reading, same, nonzero⟩ := exists_ofInt 72 (by decide) (by decide)
  have isScaled : IsScaled (1 / 72) (Single.ofInt (points * 25400))
      ((Single.ofInt (points * 25400)).div (Single.ofInt 72)) := by
    have scaled : IsScaled (1 / magnitude.value) (Single.ofInt (points * 25400))
        ((Single.ofInt (points * 25400)).div (Single.ofInt 72)) := isScaled_div reading nonzero
    rw [same] at scaled
    exact_mod_cast scaled
  have limit : IsLimit (1 / 72) 9437184 14 := by
    refine ⟨by decide, ⟨9437184, 14, by decide, by decide, rfl⟩, ?_, ?_⟩
    all_goals norm_num
  have held := roundHalfUp_isHeld (rounds_ofInt product) isScaled real le_rfl (by norm_num) limit
  have whole : ((points * 25400 : Int) : ℚ) * (1 / 72) = exactPoints points := by
    rw [exactPoints]
    push_cast
    ring
  exact whole ▸ held

end PrintConnector.Ppd
