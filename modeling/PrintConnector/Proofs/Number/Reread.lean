import PrintConnector.Proofs.Number.Halfway

/-! A number in single precision is read back from its shortest decimal.

The decimal is worked out in double precision first.  What comes out is on the same side
as the decimal of both points halfway to the next numbers, so it is rounded to the number
that the decimal was written for.
-/

namespace PrintConnector.Number

variable {magnitude : Magnitude} {decimal : Decimal} {x y : ℚ}

/-- The point halfway to the next number, and to the one before. -/
def Magnitude.upper (magnitude : Magnitude) : ℚ :=
  (2 * magnitude.mantissa + 1 : Nat) * 2 ^ (magnitude.exponent - 1)

def Magnitude.lower (magnitude : Magnitude) : ℚ :=
  (2 * magnitude.mantissa - 1 : Nat) * 2 ^ (magnitude.exponent - 1)

namespace Magnitude

theorem upper_eq (magnitude : Magnitude) :
    magnitude.upper = (magnitude.mantissa + 1 / 2) * 2 ^ magnitude.exponent := by
  rw [upper, zpow_sub_one₀ (by norm_num)]
  push_cast
  ring

theorem lower_eq (positive : 0 < magnitude.mantissa) :
    magnitude.lower = (magnitude.mantissa - 1 / 2) * 2 ^ magnitude.exponent := by
  rw [lower, zpow_sub_one₀ (by norm_num), Nat.cast_sub (by omega)]
  push_cast
  ring

/-- A number that is rounded to a magnitude lies between its two points. -/
theorem isNearest_iff_between (positive : 0 < magnitude.mantissa) :
    IsNearest magnitude.mantissa (x / 2 ^ magnitude.exponent) ↔
      if magnitude.mantissa % 2 = 0 then magnitude.lower ≤ x ∧ x ≤ magnitude.upper
      else magnitude.lower < x ∧ x < magnitude.upper := by
  have unit : (0 : ℚ) < 2 ^ magnitude.exponent := by positivity
  rw [isNearest_iff, lower_eq positive, upper_eq, le_div_iff₀ unit, div_le_iff₀ unit,
    lt_div_iff₀ unit, div_lt_iff₀ unit]

theorem isNearest_of_sameSide (positive : 0 < magnitude.mantissa)
    (near : IsNearest magnitude.mantissa (x / 2 ^ magnitude.exponent))
    (low : SameSide x y magnitude.lower) (high : SameSide x y magnitude.upper) :
    IsNearest magnitude.mantissa (y / 2 ^ magnitude.exponent) := by
  rw [isNearest_iff_between positive] at near ⊢
  split_ifs at near ⊢
  · constructor
    · rcases low with ⟨less, -⟩ | ⟨-, same⟩ | ⟨-, more⟩
      · exact absurd near.1 (not_le.mpr less)
      · exact same.ge
      · exact more.le
    · rcases high with ⟨-, less⟩ | ⟨-, same⟩ | ⟨more, -⟩
      · exact less.le
      · exact same.le
      · exact absurd near.2 (not_le.mpr more)
  · constructor
    · rcases low with ⟨less, -⟩ | ⟨same, -⟩ | ⟨-, more⟩
      · exact absurd near.1 less.not_gt
      · exact absurd same near.1.ne'
      · exact more
    · rcases high with ⟨-, less⟩ | ⟨same, -⟩ | ⟨more, -⟩
      · exact less
      · exact absurd same near.2.ne
      · exact absurd near.2 more.not_gt

theorem IsCanonical.full_of_even (canonical : magnitude.IsCanonical) (even : magnitude.IsEven)
    (large : -149 < magnitude.exponent) : 2 ^ 23 < magnitude.mantissa := by
  have full := canonical.full large
  have power : magnitude.mantissa ≠ 2 ^ 23 := fun power => large.ne (even power).symm
  omega

theorem IsCanonical.isExponent (canonical : magnitude.IsCanonical) (even : magnitude.IsEven)
    (near : IsNearest magnitude.mantissa (x / 2 ^ magnitude.exponent)) :
    BinaryFormat.single.IsExponent x magnitude.exponent := by
  have unit : (0 : ℚ) < 2 ^ magnitude.exponent := by positivity
  obtain ⟨low, high⟩ := near.bounds
  refine ⟨canonical.least, ?_, fun large => ?_⟩
  · have short : (magnitude.mantissa : ℚ) + 1 ≤ 2 ^ 24 := by exact_mod_cast canonical.short
    calc x ≤ (magnitude.mantissa + 1 / 2) * 2 ^ magnitude.exponent := high
      _ < 2 ^ 24 * 2 ^ magnitude.exponent := by
          gcongr
          linarith
      _ = 2 ^ (magnitude.exponent + (24 : Nat)) := by
          rw [zpow_add₀ (by norm_num), zpow_natCast, mul_comm]
  · have full : (2 : ℚ) ^ 23 + 1 ≤ magnitude.mantissa := by
      exact_mod_cast canonical.full_of_even even large
    calc (2 : ℚ) ^ (magnitude.exponent + (24 : Nat) - 1) = 2 ^ 23 * 2 ^ magnitude.exponent := by
          rw [add_sub_assoc, zpow_add₀ (by norm_num), mul_comm]
          norm_num
      _ ≤ (magnitude.mantissa - 1 / 2) * 2 ^ magnitude.exponent := by
          gcongr
          linarith
      _ ≤ x := low

theorem IsCanonical.nearest?_eq (canonical : magnitude.IsCanonical) (even : magnitude.IsEven)
    {ratio : Nat × Nat} (fraction : 0 < ratio.2)
    (near : IsNearest magnitude.mantissa ((ratio.1 : ℚ) / ratio.2 / 2 ^ magnitude.exponent)) :
    BinaryFormat.single.nearest? ratio.1 ratio.2 = some magnitude := by
  have nonzero : 0 < ratio.1 := by
    have one : (1 : ℚ) ≤ magnitude.mantissa := by exact_mod_cast canonical.positive
    have half : (0 : ℚ) < magnitude.mantissa - 1 / 2 := by linarith
    exact numerator_pos (lt_of_lt_of_le (by positivity) near.bounds.1) rfl
  have place := canonical.isExponent even near
  have short : magnitude.mantissa < 2 ^ BinaryFormat.single.precision := canonical.short
  rw [BinaryFormat.nearest?_eq nonzero fraction place near]
  simp only [if_pos short]
  exact if_pos canonical.most

theorem IsCanonical.value_bounds (canonical : magnitude.IsCanonical)
    (near : IsNearest magnitude.mantissa (x / 2 ^ magnitude.exponent)) :
    2 ^ (-150 : Int) ≤ x ∧ x < 2 ^ (129 : Int) := by
  obtain ⟨large, small⟩ := canonical.bounds
  obtain ⟨low, high⟩ := near.bounds
  have one : (1 : ℚ) ≤ magnitude.mantissa := by exact_mod_cast canonical.positive
  have unit : (2 : ℚ) ^ magnitude.exponent ≤ magnitude.value :=
    le_mul_of_one_le_left (by positivity) one
  rw [sub_mul, ← value] at low
  rw [add_mul, ← value] at high
  norm_num at large small ⊢
  constructor <;> linarith

end Magnitude

/-- The exponent of a decimal of nine digits is bounded if its value is. -/
theorem Decimal.exponent_near (nonzero : 0 < decimal.digits) (few : decimal.digits ≤ 10 ^ 9)
    (large : 2 ^ (-150 : Int) ≤ decimal.value) (small : decimal.value < 2 ^ (129 : Int)) :
    decimal.exponent.natAbs ≤ 56 := by
  have one : (1 : ℚ) ≤ decimal.digits := by exact_mod_cast nonzero
  have few : (decimal.digits : ℚ) ≤ 10 ^ 9 := by exact_mod_cast few
  have most : (10 : ℚ) ^ decimal.exponent < 10 ^ (39 : Int) := by
    calc (10 : ℚ) ^ decimal.exponent ≤ decimal.value :=
          le_mul_of_one_le_left (by positivity) one
      _ < 2 ^ (129 : Int) := small
      _ < 10 ^ (39 : Int) := by norm_num
  have least : (10 : ℚ) ^ (-46 : Int) < 10 ^ (decimal.exponent + 9) := by
    calc (10 : ℚ) ^ (-46 : Int) < 2 ^ (-150 : Int) := by norm_num
      _ ≤ decimal.value := large
      _ ≤ 10 ^ 9 * 10 ^ decimal.exponent := by
          rw [value]
          gcongr
      _ = 10 ^ (decimal.exponent + 9) := by
          rw [zpow_add₀ (by norm_num), mul_comm]
          norm_num
  have most := lt_of_tenPow_lt most
  have least := lt_of_tenPow_lt least
  omega

theorem Decimal.normal_digits_le (decimal : Decimal) : decimal.normal.digits ≤ decimal.digits := by
  by_cases zero : decimal.digits = 0
  · simp [normal, zero]
  · obtain ⟨count, digits, -, -⟩ := exists_normal zero
    rw [digits]
    exact Nat.le_mul_of_pos_right _ (by positivity)

theorem Decimal.normal_digits_pos (nonzero : 0 < decimal.digits) : 0 < decimal.normal.digits := by
  obtain ⟨count, digits, -, -⟩ := exists_normal nonzero.ne'
  rw [digits] at nonzero
  exact Nat.pos_of_mul_pos_right nonzero

namespace Magnitude

variable {double : Magnitude} {top : Nat} {point : ℚ}

/-- With more digits than single precision holds, the nearest decimal is not close to a
point halfway to another number. -/
theorem IsHit.far (hit : magnitude.IsHit decimal) (canonical : magnitude.IsCanonical)
    (halfway : |point - magnitude.value| = 2 ^ magnitude.exponent / 2)
    (many : 2 ^ 24 ≤ decimal.digits) :
    3 / 2 ^ 53 * decimal.value < |point - decimal.value| := by
  have unit : (0 : ℚ) < 2 ^ magnitude.exponent := by positivity
  have most : decimal.value ≤ (2 ^ 24 - 1 / 2) * 2 ^ magnitude.exponent := by
    have short : (magnitude.mantissa : ℚ) + 1 ≤ 2 ^ 24 := by exact_mod_cast canonical.short
    apply hit.near.bounds.2.trans
    gcongr
    linarith
  have step : 2 ^ 24 * 10 ^ decimal.exponent ≤ decimal.value := by
    have many : (2 : ℚ) ^ 24 ≤ decimal.digits := by exact_mod_cast many
    rw [Decimal.value]
    gcongr
  have triangle : |point - magnitude.value| ≤
      |point - decimal.value| + |decimal.value - magnitude.value| := abs_sub_le ..
  have grid := hit.grid
  rw [halfway] at triangle
  linarith

theorem IsHit.isMeeting (hit : magnitude.IsHit decimal) (canonical : magnitude.IsCanonical)
    (even : magnitude.IsEven) (short : decimal.digits < 2 ^ 24)
    (beside : top = 2 * magnitude.mantissa + 1 ∨ top = 2 * magnitude.mantissa - 1)
    (close : |top * 2 ^ (magnitude.exponent - 1) - decimal.value| ≤ 3 / 2 ^ 53 * decimal.value) :
    IsMeeting top (magnitude.exponent - 1) decimal.normal.digits decimal.normal.exponent := by
  have positive := canonical.positive
  have mantissa := canonical.short
  have least := canonical.least
  have most := canonical.most
  rw [← decimal.normal_value] at close
  refine ⟨Decimal.normal_digits_pos hit.nonzero, decimal.normal_digits_le.trans_lt short,
    by omega, by omega, fun large => ?_, by omega, by omega, close⟩
  have full := canonical.full_of_even even (by omega)
  omega

/-- The decimal and what is worked out for it do not lie on two sides of a point halfway
to another number. -/
theorem IsHit.sameSide (hit : magnitude.IsHit decimal) (canonical : magnitude.IsCanonical)
    (even : magnitude.IsEven)
    (found : doubleOfDecimal? decimal.normal.digits decimal.normal.exponent = some double)
    (workedOut : IsWorkedOut decimal.normal double)
    (beside : top = 2 * magnitude.mantissa + 1 ∨ top = 2 * magnitude.mantissa - 1)
    (halfway : |top * 2 ^ (magnitude.exponent - 1) - magnitude.value| =
      2 ^ magnitude.exponent / 2) :
    SameSide decimal.value double.value (top * 2 ^ (magnitude.exponent - 1)) := by
  by_cases far : 3 / 2 ^ 53 * decimal.value <
      |(top : ℚ) * 2 ^ (magnitude.exponent - 1) - decimal.value|
  · have close := workedOut.close
    rw [decimal.normal_value] at close
    exact sameSide_of_far close far
  · have short : decimal.digits < 2 ^ 24 := by
      by_contra many
      exact far (hit.far canonical halfway (not_lt.mp many))
    have meeting := hit.isMeeting canonical even short beside (not_lt.mp far)
    rw [← decimal.normal_value]
    exact meeting.sameSide found workedOut

theorem abs_upper (magnitude : Magnitude) :
    |magnitude.upper - magnitude.value| = 2 ^ magnitude.exponent / 2 := by
  have unit : (0 : ℚ) < 2 ^ magnitude.exponent := by positivity
  have beyond : magnitude.upper - magnitude.value = 2 ^ magnitude.exponent / 2 := by
    rw [upper_eq, value]
    ring
  rw [beyond, abs_of_pos (by positivity)]

theorem abs_lower (positive : 0 < magnitude.mantissa) :
    |magnitude.lower - magnitude.value| = 2 ^ magnitude.exponent / 2 := by
  have unit : (0 : ℚ) < 2 ^ magnitude.exponent := by positivity
  have under : magnitude.lower - magnitude.value = -(2 ^ magnitude.exponent / 2) := by
    rw [lower_eq positive, value]
    ring
  rw [under, abs_neg, abs_of_pos (by positivity)]

/-- A number is read back from its shortest decimal. -/
def Rereads (magnitude : Magnitude) : Prop :=
  ∃ double, doubleOfDecimal? magnitude.shortest.digits magnitude.shortest.exponent = some double ∧
    BinaryFormat.single.nearest? double.ratio.1 double.ratio.2 = some magnitude

theorem IsCanonical.rereads_even (canonical : magnitude.IsCanonical) (even : magnitude.IsEven) :
    magnitude.Rereads := by
  obtain ⟨decimal, hit, shortest⟩ := canonical.exists_shortest even
  have nonzero := Decimal.normal_digits_pos hit.nonzero
  have few := decimal.normal_digits_le.trans hit.few
  obtain ⟨large, small⟩ := canonical.value_bounds hit.near
  rw [← decimal.normal_value] at large small
  obtain ⟨double, found, workedOut⟩ := exists_doubleOfDecimal nonzero (few.trans_lt (by decide))
    (Decimal.exponent_near nonzero few large small)
  -- The decimal rounds to the magnitude, so what stands with it on one side of both points
  -- does as well.
  have low := hit.sameSide canonical even found workedOut (.inr rfl) (abs_lower canonical.positive)
  have high := hit.sameSide canonical even found workedOut (.inl rfl) magnitude.abs_upper
  refine ⟨double, shortest ▸ found, ?_⟩
  apply canonical.nearest?_eq even double.ratio_pos
  rw [double.ratio_value]
  exact isNearest_of_sameSide canonical.positive hit.near low high

instance (magnitude : Magnitude) : Decidable magnitude.Rereads :=
  match found : doubleOfDecimal? magnitude.shortest.digits magnitude.shortest.exponent with
  | none => isFalse (by simp [Rereads, found])
  | some double =>
      decidable_of_iff
        (BinaryFormat.single.nearest? double.ratio.1 double.ratio.2 = some magnitude)
        (by simp [Rereads, found])

/-- A power of two is nearer to the number before it than to the next.  There are only
few of them. -/
theorem rereads_power : ∀ step < 253, Rereads ⟨8388608, Int.ofNat step - 148⟩ := by
  decide +kernel

theorem IsCanonical.rereads (canonical : magnitude.IsCanonical) : magnitude.Rereads := by
  by_cases even : magnitude.IsEven
  · exact canonical.rereads_even even
  · obtain ⟨power, large⟩ := Classical.not_imp.mp even
    have least := canonical.least
    have most := canonical.most
    obtain ⟨step, same⟩ := Int.eq_ofNat_of_zero_le (by omega : 0 ≤ magnitude.exponent + 148)
    have rereads := rereads_power step (by omega)
    have exponent : Int.ofNat step - 148 = magnitude.exponent := by
      rw [Int.ofNat_eq_natCast]
      omega
    have power : magnitude.mantissa = 8388608 := power
    rwa [exponent, ← power] at rereads

end Magnitude

namespace Single

variable {single : Single} {negative : Bool}

/-- The two kinds of finite numbers, by their bits. -/
theorem bits_of_reading (reading : single.reading = .finite negative magnitude) :
    ∃ field fraction : Nat, field < 255 ∧ fraction < 8388608 ∧
      single.bits.toNat = signBits negative + field * 8388608 + fraction ∧
      magnitude = if field = 0 then ⟨fraction, -149⟩
        else ⟨fraction + 8388608, (field : Int) - 150⟩ := by
  have small := single.bits.toNat_lt
  refine ⟨single.bits.toNat / 8388608 % 256, single.bits.toNat % 8388608, ?_⟩
  have sign : single.bits.toNat = signBits (decide (2147483648 ≤ single.bits.toNat)) +
      single.bits.toNat / 8388608 % 256 * 8388608 + single.bits.toNat % 8388608 := by
    by_cases high : 2147483648 ≤ single.bits.toNat
    · simp only [high, decide_true, signBits, if_true]
      omega
    · simp only [high, decide_false, signBits, Bool.false_eq_true, if_false]
      omega
  simp only [Single.reading] at reading
  split at reading
  · split at reading <;> cases reading
  · rename_i below
    have below : single.bits.toNat / 8388608 % 256 < 255 := by omega
    split at reading
    · rename_i first
      cases reading
      exact ⟨below, by omega, sign, (if_pos first).symm⟩
    · rename_i later
      cases reading
      exact ⟨below, by omega, sign, (if_neg later).symm⟩

theorem canonical_of_reading (reading : single.reading = .finite negative magnitude)
    (nonzero : magnitude.mantissa ≠ 0) : magnitude.IsCanonical := by
  obtain ⟨field, fraction, below, less, -, rfl⟩ := bits_of_reading reading
  split_ifs at nonzero ⊢ with first
  all_goals
    simp only at nonzero
    constructor <;> simp only <;> omega

theorem ofMagnitude_of_reading (reading : single.reading = .finite negative magnitude) :
    ofMagnitude negative (some magnitude) = single := by
  obtain ⟨field, fraction, below, less, bits, rfl⟩ := bits_of_reading reading
  have same : signBits negative + field * 8388608 + fraction = single.bits.toNat := bits.symm
  split_ifs with first
  · subst first
    simp only [ofMagnitude, if_pos less, Nat.mod_eq_of_lt less, same, UInt32.ofNat_toNat]
  · have more : ¬ fraction + 8388608 < 8388608 := by omega
    have field_eq : ((field : Int) - 150 + 150).toNat = field := by omega
    simp only [ofMagnitude, if_neg more, field_eq, Nat.add_mod_right, Nat.mod_eq_of_lt less, same,
      UInt32.ofNat_toNat]

/-- A number is read back from the decimal that is written for it. -/
theorem ofDecimalViaDouble_shortest (reading : single.reading = .finite negative magnitude)
    (nonzero : magnitude.mantissa ≠ 0) :
    ofDecimalViaDouble negative magnitude.shortest.digits magnitude.shortest.exponent = single := by
  obtain ⟨double, found, nearest⟩ := (canonical_of_reading reading nonzero).rereads
  rw [ofDecimalViaDouble, found]
  rw [Magnitude.ratio] at nearest
  simp only [ofBinary, ofRatio, nearest]
  exact ofMagnitude_of_reading reading

theorem least_of_reading (reading : single.reading = .finite negative magnitude)
    (zero : magnitude.mantissa = 0) : magnitude = ⟨0, -149⟩ := by
  obtain ⟨field, fraction, -, -, -, rfl⟩ := bits_of_reading reading
  by_cases first : field = 0
  · rw [if_pos first] at zero ⊢
    have none : fraction = 0 := zero
    rw [none]
  · rw [if_neg first] at zero
    have none : fraction + 8388608 = 0 := zero
    omega

theorem ofDecimalViaDouble_zero (reading : single.reading = .finite negative magnitude)
    (zero : magnitude.mantissa = 0) : ofDecimalViaDouble negative 0 0 = single := by
  rw [least_of_reading reading zero] at reading
  rw [← ofMagnitude_of_reading reading]
  cases negative <;> decide +kernel

end Single

end PrintConnector.Number
