import Mathlib.Data.Rat.Floor
import PrintConnector.Proofs.Number.Closest

namespace PrintConnector.Number

variable {magnitude left right : Magnitude} {x y factor : ℚ}

namespace Single

variable {single other scaled : Single}

theorem reading_ofMagnitude (stored : BinaryFormat.single.IsStored magnitude) :
    (ofMagnitude false (some magnitude)).reading = .finite false magnitude := by
  obtain ⟨mantissa, exponent⟩ := magnitude
  obtain ⟨short, least, most, full⟩ := stored
  simp only [BinaryFormat.single, Nat.reducePow, Nat.reduceSub] at short least most full
  simp only [ofMagnitude, signBits, Bool.false_eq_true, if_false, Nat.zero_add]
  by_cases small : mantissa < 8388608
  · obtain rfl : exponent = -149 := by omega
    have pattern : (UInt32.ofNat (0 * 8388608 + mantissa % 8388608)).toNat = mantissa := by
      rw [UInt32.toNat_ofNat']
      omega
    rw [if_pos small, reading]
    simp only [pattern]
    have sign : ¬ 2147483648 ≤ mantissa := by omega
    have field : mantissa / 8388608 % 256 = 0 := by omega
    have fraction : mantissa % 8388608 = mantissa := by omega
    simp [sign, field, fraction]
  · obtain ⟨place, field_eq⟩ : ∃ place : Nat, exponent + 150 = place :=
      Int.eq_ofNat_of_zero_le (by omega)
    have pattern : (UInt32.ofNat ((exponent + 150).toNat * 8388608 + mantissa % 8388608)).toNat =
        place * 8388608 + (mantissa - 8388608) := by
      rw [UInt32.toNat_ofNat', field_eq, Int.toNat_natCast]
      omega
    rw [if_neg small, reading]
    simp only [pattern]
    have sign : ¬ 2147483648 ≤ place * 8388608 + (mantissa - 8388608) := by omega
    have field : (place * 8388608 + (mantissa - 8388608)) / 8388608 % 256 = place := by omega
    have fraction : (place * 8388608 + (mantissa - 8388608)) % 8388608 = mantissa - 8388608 := by
      omega
    have first : place ≠ 0 := by omega
    have last : place ≠ 255 := by omega
    have whole : mantissa - 8388608 + 8388608 = mantissa := by omega
    have exponent_eq : (place : Int) - 150 = exponent := by omega
    simp [sign, field, fraction, first, last, whole, exponent_eq]

theorem reading_infinity : (infinity false).reading = .infinite false :=
  rfl

/-- A number that is not negative, and what it is in single precision. -/
inductive Rounds (x : ℚ) (single : Single) : Prop where
  | finite (magnitude : Magnitude) (reading : single.reading = .finite false magnitude)
      (closest : BinaryFormat.single.IsClosest x magnitude)
  | infinite (reading : single.reading = .infinite false) (huge : 2 ^ (127 : Int) ≤ x)

theorem rounds_ofRatio {numerator denominator : Nat} (positive : 0 < denominator) :
    Rounds (numerator / denominator) (ofRatio false numerator denominator) := by
  rcases BinaryFormat.single.nearest?_closest numerator (by decide) (by decide) positive with
    ⟨rounded, found, closest⟩ | ⟨found, huge⟩
  · refine .finite rounded ?_ closest
    rw [ofRatio, found]
    exact reading_ofMagnitude closest.stored
  · refine .infinite ?_ huge
    rw [ofRatio, found]
    exact reading_infinity

theorem rounds_ofBinary (mantissa : Nat) (exponent : Int) :
    Rounds (mantissa * 2 ^ exponent) (ofBinary false mantissa exponent) := by
  have value := Magnitude.ratio_value ⟨mantissa, exponent⟩
  rw [Magnitude.value] at value
  rw [← value]
  exact rounds_ofRatio (Magnitude.ratio_pos _)

theorem rounds_ofInt {value : Int} (nonneg : 0 ≤ value) : Rounds value (ofInt value) := by
  obtain ⟨natural, rfl⟩ := Int.eq_ofNat_of_zero_le nonneg
  have rounds : Rounds ((natural : ℚ) / (1 : Nat)) (ofRatio false natural 1) :=
    rounds_ofRatio Nat.one_pos
  rw [ofInt, decide_eq_false (not_lt.mpr nonneg), Int.natAbs_natCast]
  simpa using rounds

theorem rounds_ofDecimal (decimal : Decimal) :
    Rounds decimal.value (ofDecimal false decimal.digits decimal.exponent) := by
  rw [← decimalRatio_value]
  exact rounds_ofRatio (decimalRatio_pos ..)

theorem rounds_mul (one : single.reading = .finite false left)
    (two : other.reading = .finite false right) :
    Rounds (left.value * right.value) (single.mul other) := by
  have product : left.value * right.value =
      (left.mantissa * right.mantissa : Nat) * 2 ^ (left.exponent + right.exponent) := by
    rw [Magnitude.value, Magnitude.value, zpow_add₀ (by norm_num)]
    push_cast
    ring
  rw [product, mul, one, two]
  exact rounds_ofBinary ..

theorem rounds_div (one : single.reading = .finite false left)
    (two : other.reading = .finite false right) (nonzero : 0 < right.mantissa) :
    Rounds (left.value / right.value) (single.div other) := by
  have real : (right.mantissa : ℚ) ≠ 0 := by exact_mod_cast nonzero.ne'
  have quotient : left.value / right.value =
      ((scaleDown left.mantissa right.mantissa (right.exponent - left.exponent)).1 : ℚ) /
        (scaleDown left.mantissa right.mantissa (right.exponent - left.exponent)).2 := by
    rw [scaleDown_value, Magnitude.value, Magnitude.value, zpow_sub₀ (by norm_num)]
    field_simp
  rw [quotient, div, one, two]
  simp only [if_neg nonzero.ne']
  exact rounds_ofRatio (scaleDown_pos nonzero _)

theorem alignedTo_value {exponent : Int} (below : exponent ≤ magnitude.exponent) :
    (alignedTo exponent false magnitude : ℚ) * 2 ^ exponent = magnitude.value := by
  obtain ⟨shift, same⟩ := Int.le.dest below
  have difference : magnitude.exponent - exponent = shift := by omega
  simp only [alignedTo, Bool.false_eq_true, if_false, difference, Int.toNat_natCast]
  rw [Magnitude.value, ← same, zpow_add₀ (by norm_num), zpow_natCast, Nat.shiftLeft_eq]
  push_cast
  ring

theorem rounds_add (one : single.reading = .finite false left)
    (two : other.reading = .finite false right) (nonzero : 0 < right.mantissa) :
    Rounds (left.value + right.value) (single.add other) := by
  have first := alignedTo_value (min_le_left left.exponent right.exponent)
  have second := alignedTo_value (min_le_right left.exponent right.exponent)
  have positive : 0 < right.mantissa <<<
      (right.exponent - min left.exponent right.exponent).toNat := by
    rw [Nat.shiftLeft_eq]
    positivity
  rw [add, one, two, ← first, ← second, ← add_mul]
  simp only [alignedTo, Bool.false_eq_true, if_false]
  generalize left.mantissa <<< (left.exponent - min left.exponent right.exponent).toNat = front
  generalize right.mantissa <<< (right.exponent - min left.exponent right.exponent).toNat = back
    at positive ⊢
  have total : (front : Int) + back = (front + back : Nat) := by push_cast; rfl
  have sign : ¬ ((front + back : Nat) : Int) < 0 := by omega
  have some : ((front + back : Nat) : Int) ≠ 0 := by omega
  rw [total, if_neg some, decide_eq_false sign, Int.natAbs_natCast]
  have rounds := rounds_ofBinary (front + back) (min left.exponent right.exponent)
  push_cast at rounds ⊢
  exact rounds

theorem Rounds.near (rounds : Rounds x single) (small : x < 2 ^ (127 : Int)) :
    ∃ magnitude, single.reading = .finite false magnitude ∧
      |magnitude.value - x| ≤ x / 2 ^ 24 + 2 ^ (-150 : Int) := by
  cases rounds with
  | finite magnitude reading closest => exact ⟨magnitude, reading, closest.close⟩
  | infinite _ huge => exact absurd huge (not_le.mpr small)

/-- A number that single precision holds is not rounded. -/
theorem Rounds.exact (rounds : Rounds x single) (holds : BinaryFormat.single.Holds x)
    (small : x < 2 ^ (127 : Int)) :
    ∃ magnitude, single.reading = .finite false magnitude ∧ magnitude.value = x := by
  cases rounds with
  | finite magnitude reading closest =>
      have least := closest.least x holds
      rw [sub_self, abs_zero] at least
      exact ⟨magnitude, reading, sub_eq_zero.mp (abs_nonpos_iff.mp least)⟩
  | infinite _ huge => exact absurd huge (not_le.mpr small)

theorem holds_natCast {number : Nat} (short : number < 2 ^ 24) :
    BinaryFormat.single.Holds number :=
  ⟨number, 0, short, by decide, by simp⟩

/-- At least so much, or infinity. -/
inductive AtLeast (y : ℚ) (single : Single) : Prop where
  | finite (magnitude : Magnitude) (reading : single.reading = .finite false magnitude)
      (above : y ≤ magnitude.value)
  | infinite (reading : single.reading = .infinite false)

theorem Rounds.atLeast (rounds : Rounds x single) (holds : BinaryFormat.single.Holds y)
    (below : y ≤ x) : AtLeast y single := by
  cases rounds with
  | finite magnitude reading closest =>
      exact .finite magnitude reading (closest.le_value holds below)
  | infinite reading _ => exact .infinite reading

theorem Rounds.atLeast_of_beyond {mantissa : Nat} {exponent : Int} (rounds : Rounds x single)
    (full : 2 ^ 23 < mantissa) (holds : BinaryFormat.single.Holds (mantissa * 2 ^ exponent))
    (beyond : (mantissa - 1 / 2) * 2 ^ exponent < x) :
    AtLeast (mantissa * 2 ^ exponent) single := by
  cases rounds with
  | finite magnitude reading closest =>
      exact .finite magnitude reading (closest.le_value_of_beyond (by decide) full holds beyond)
  | infinite reading _ => exact .infinite reading

/-- A number times an exact factor, rounded. -/
structure IsScaled (factor : ℚ) (single scaled : Single) : Prop where
  finite : ∀ magnitude, single.reading = .finite false magnitude →
    Rounds (magnitude.value * factor) scaled
  infinite : single.reading = .infinite false → scaled.reading = .infinite false

theorem isScaled_mul (reading : other.reading = .finite false right)
    (nonzero : 0 < right.mantissa) : IsScaled right.value single (single.mul other) where
  finite _ finite := rounds_mul finite reading
  infinite infinite := by
    rw [mul, infinite, reading]
    simp only [if_neg nonzero.ne']
    exact reading_infinity

theorem isScaled_div (reading : other.reading = .finite false right)
    (nonzero : 0 < right.mantissa) : IsScaled (1 / right.value) single (single.div other) where
  finite magnitude finite := by
    rw [mul_one_div]
    exact rounds_div finite reading nonzero
  infinite infinite := by
    rw [div, infinite, reading]
    exact reading_infinity

theorem IsScaled.atLeast (isScaled : IsScaled factor single scaled) (positive : 0 ≤ factor)
    (above : AtLeast x single) (holds : BinaryFormat.single.Holds y) (below : y ≤ x * factor) :
    AtLeast y scaled := by
  cases above with
  | finite magnitude reading above =>
      have more : x * factor ≤ magnitude.value * factor := mul_le_mul_of_nonneg_right above positive
      exact (isScaled.finite magnitude reading).atLeast holds (below.trans more)
  | infinite reading => exact .infinite (isScaled.infinite reading)

theorem AtLeast.add (above : AtLeast y single) (reading : other.reading = .finite false right)
    (nonzero : 0 < right.mantissa) (holds : BinaryFormat.single.Holds y) :
    AtLeast y (single.add other) := by
  cases above with
  | finite magnitude finite above =>
      have positive := Magnitude.value_pos.mpr nonzero
      exact (rounds_add finite reading nonzero).atLeast holds (by linarith)
  | infinite infinite =>
      refine .infinite ?_
      rw [Single.add, infinite, reading]
      exact reading_infinity

theorem wholePart_eq_floor (magnitude : Magnitude) :
    (wholePart magnitude : Int) = ⌊magnitude.value⌋ := by
  obtain ⟨mantissa, exponent⟩ := magnitude
  cases exponent with
  | ofNat shift =>
      have value : (⟨mantissa, .ofNat shift⟩ : Magnitude).value = (mantissa * 2 ^ shift : Nat) := by
        simp [Magnitude.value]
      rw [value, Int.floor_natCast, ← Nat.shiftLeft_eq]
      rfl
  | negSucc shift =>
      have value : (⟨mantissa, .negSucc shift⟩ : Magnitude).value =
          (mantissa : ℚ) / (2 ^ (shift + 1) : Nat) := by
        simp [Magnitude.value, div_eq_mul_inv]
      rw [value, Rat.floor_natCast_div_natCast, ← Int.natCast_div, ← Nat.shiftRight_eq_div_pow]
      rfl

theorem toInt32_of_finite (reading : single.reading = .finite false magnitude) :
    single.toInt32 = min ⌊magnitude.value⌋ 2147483647 := by
  rw [toInt32, reading, ← wholePart_eq_floor]
  rfl

theorem AtLeast.toInt32 (above : AtLeast 2147483648 single) : single.toInt32 = 2147483647 := by
  cases above with
  | finite magnitude reading above =>
      have whole : 2147483648 ≤ ⌊magnitude.value⌋ := Int.le_floor.mpr (by exact_mod_cast above)
      rw [toInt32_of_finite reading]
      omega
  | infinite reading =>
      rw [Single.toInt32, reading]
      rfl

end Single

end PrintConnector.Number
