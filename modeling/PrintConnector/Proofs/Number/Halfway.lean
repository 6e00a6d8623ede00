import PrintConnector.Proofs.Number.Neighbour
import PrintConnector.Proofs.Number.Shortest

/-! Decimals halfway between two numbers.

A short decimal hardly ever comes as close to the point halfway between two numbers as
double precision is inexact.  Whether one does is a question about the fractions near the
ratio of a power of ten to a power of two, and a bracket around that ratio answers it.
Around `10 ^ 32` there is one that does; it is worked out in full.
-/

namespace PrintConnector.Number

variable {top bottom : Nat} {ratio : Nat × Nat} {place exponent : Int}

/-- A power of ten over a power of two. -/
def unitRatio (place exponent : Int) : Nat × Nat :=
  let ratio := Single.decimalRatio 1 exponent
  scaleDown ratio.1 ratio.2 place

/-- The least fraction within three parts in `2 ^ 53` of another. -/
def lowest (ratio : Nat × Nat) : Nat × Nat :=
  (ratio.1 * (2 ^ 53 - 3), ratio.2 * 2 ^ 53)

/-- The greatest one. -/
def highest (ratio : Nat × Nat) : Nat × Nat :=
  (ratio.1 * (2 ^ 53 + 3), ratio.2 * 2 ^ 53)

structure IsClose (ratio : Nat × Nat) (top bottom : Nat) : Prop where
  above : bottom * (lowest ratio).1 ≤ top * (lowest ratio).2
  below : top * (highest ratio).2 ≤ bottom * (highest ratio).1

/-- A fraction that is close lies in every bracket that spans what is close. -/
theorem IsClose.between {bracket : Bracket} (close : IsClose ratio top bottom)
    (spans : bracket.spans (lowest ratio) (highest ratio) = true) (point : 0 < top)
    (nonzero : 0 < bottom) :
    bracket.low.1 * bottom < top * bracket.low.2 ∧
      top * bracket.high.2 < bracket.high.1 * bottom := by
  obtain ⟨⟨a, b⟩, ⟨c, d⟩⟩ := bracket
  simp only [Bracket.spans, Bool.and_eq_true, decide_eq_true_eq] at spans
  obtain ⟨beyond, under⟩ := spans
  have above := lt_of_lt_of_le_fraction (lowest ratio) beyond close.above nonzero
  have below := lt_of_lt_of_le_fraction (highest ratio).swap under close.below point
  refine ⟨above, ?_⟩
  rwa [Nat.mul_comm, Nat.mul_comm c]

/-- The bracket that is found around what is close to a ratio. -/
def bracketOf (ratio : Nat × Nat) : Bracket :=
  .narrow (lowest ratio) (highest ratio) 12 ⟨(0, 1), (1, 0)⟩

/-- Within bounds no fraction is close to the ratio, or only the ratio itself. -/
def isApart (place exponent : Int) : Bool :=
  let ratio := unitRatio place exponent
  let common := ratio.1.gcd ratio.2
  (exponent.natAbs ≤ 22 &&
      (3 * (2 ^ 24 * ratio.1) < common * 2 ^ 53 || 4 * (2 ^ 25 * ratio.2) < common * 2 ^ 53)) ||
    ((bracketOf ratio).isEmpty && (bracketOf ratio).spans (lowest ratio) (highest ratio))

theorem unitRatio_pos (place exponent : Int) : 0 < (unitRatio place exponent).2 :=
  scaleDown_pos (decimalRatio_pos ..) _

theorem unitRatio_value (place exponent : Int) :
    ((unitRatio place exponent).1 : ℚ) / (unitRatio place exponent).2 =
      10 ^ exponent / 2 ^ place := by
  have power := decimalRatio_value ⟨1, exponent⟩
  rw [Decimal.value, Nat.cast_one, one_mul] at power
  rw [unitRatio, scaleDown_value, power]

namespace IsClose

theorem bounds (close : IsClose ratio top bottom) :
    bottom * ratio.1 * (2 ^ 53 - 3) ≤ top * ratio.2 * 2 ^ 53 ∧
      top * ratio.2 * 2 ^ 53 ≤ bottom * ratio.1 * (2 ^ 53 + 3) := by
  obtain ⟨above, below⟩ := close
  simp only [lowest, highest] at above below
  rw [Nat.mul_assoc, Nat.mul_assoc top, Nat.mul_assoc bottom]
  exact ⟨above, below⟩

theorem same (close : IsClose ratio top bottom)
    (near : 3 * (bottom * ratio.1) < ratio.1.gcd ratio.2 * 2 ^ 53) :
    top * ratio.2 = bottom * ratio.1 := by
  obtain ⟨above, below⟩ := close.bounds
  have one : ratio.1.gcd ratio.2 ∣ top * ratio.2 := Dvd.dvd.mul_left (Nat.gcd_dvd_right ..) _
  have other : ratio.1.gcd ratio.2 ∣ bottom * ratio.1 := Dvd.dvd.mul_left (Nat.gcd_dvd_left ..) _
  apply eq_of_close_multiples one other
  all_goals omega

theorem same_of_lower (close : IsClose ratio top bottom) (lower : bottom < 2 ^ 24)
    (few : 3 * (2 ^ 24 * ratio.1) < ratio.1.gcd ratio.2 * 2 ^ 53) :
    top * ratio.2 = bottom * ratio.1 := by
  have bound : bottom * ratio.1 ≤ 2 ^ 24 * ratio.1 := Nat.mul_le_mul_right _ lower.le
  apply close.same
  omega

theorem same_of_upper (close : IsClose ratio top bottom) (upper : top < 2 ^ 25)
    (few : 4 * (2 ^ 25 * ratio.2) < ratio.1.gcd ratio.2 * 2 ^ 53) :
    top * ratio.2 = bottom * ratio.1 := by
  have bound : top * ratio.2 ≤ 2 ^ 25 * ratio.2 := Nat.mul_le_mul_right _ upper.le
  obtain ⟨above, -⟩ := close.bounds
  apply close.same
  omega

end IsClose

theorem isApart_sound (apart : isApart place exponent = true)
    (close : IsClose (unitRatio place exponent) top bottom) (point : 0 < top)
    (nonzero : 0 < bottom) (upper : top < 2 ^ 25) (lower : bottom < 2 ^ 24) :
    exponent.natAbs ≤ 22 ∧
      top * (unitRatio place exponent).2 = bottom * (unitRatio place exponent).1 := by
  simp only [isApart, Bool.or_eq_true, Bool.and_eq_true, decide_eq_true_eq] at apart
  rcases apart with ⟨short, few | few⟩ | ⟨empty, spans⟩
  · exact ⟨short, close.same_of_lower lower few⟩
  · exact ⟨short, close.same_of_upper upper few⟩
  · obtain ⟨above, below⟩ := close.between spans point nonzero
    have outside := Bracket.not_between empty upper lower above
    omega

/-- The two powers of two around `10 ^ 32` with a fraction that is close. -/
def isClosest (place exponent : Int) : Bool :=
  exponent == -32 && (place == -108 || place == -107)

-- From the least number's halfway point to the greatest one's, with every power of ten
-- that a decimal of eight digits near the point can have.
theorem isApart_or_isClosest : ∀ step < 254, ∀ back < if step = 0 then 17 else 10,
    let place := Int.ofNat step - 150
    let exponent := (place + 25) * 30103 / 100000 + 1 - Int.ofNat back
    (isApart place exponent || isClosest place exponent) = true := by
  decide +kernel

/-- Two numbers on one side of a point, or both at it. -/
def SameSide (one other point : ℚ) : Prop :=
  (one < point ∧ other < point) ∨ (one = point ∧ other = point) ∨ (point < one ∧ point < other)

/-- What is close to a number is with it on one side of a point that is not. -/
theorem sameSide_of_far {one other point bound : ℚ} (close : |other - one| ≤ bound)
    (far : bound < |point - one|) : SameSide one other point := by
  obtain ⟨below, above⟩ := abs_le.mp close
  rcases lt_abs.mp far with up | down
  · exact .inl ⟨by linarith [abs_nonneg (other - one)], by linarith⟩
  · exact .inr (.inr ⟨by linarith [abs_nonneg (other - one)], by linarith⟩)

/-- A point `top * 2 ^ place` halfway between two numbers, and the decimal
`bottom * 10 ^ exponent` that double precision may not tell from it. -/
structure IsMeeting (top : Nat) (place : Int) (bottom : Nat) (exponent : Int) : Prop where
  nonzero : 0 < bottom
  short : bottom < 2 ^ 24
  point : 0 < top
  upper : top < 2 ^ 25
  full : -150 < place → 2 ^ 24 ≤ top
  least : -150 ≤ place
  most : place ≤ 103
  close : |(top : ℚ) * 2 ^ place - bottom * 10 ^ exponent| ≤
    3 / 2 ^ 53 * (bottom * 10 ^ exponent)

namespace IsMeeting

theorem isClose (meeting : IsMeeting top place bottom exponent) :
    IsClose (unitRatio place exponent) top bottom := by
  have unit : (0 : ℚ) < 2 ^ place := by positivity
  have fraction : (0 : ℚ) < (unitRatio place exponent).2 := by
    exact_mod_cast unitRatio_pos place exponent
  have value : (10 : ℚ) ^ exponent =
      (unitRatio place exponent).1 / (unitRatio place exponent).2 * 2 ^ place := by
    rw [unitRatio_value]
    field_simp
  obtain ⟨below, above⟩ := abs_le.mp meeting.close
  have scaled : (bottom : ℚ) * 10 ^ exponent =
      bottom * (unitRatio place exponent).1 / (unitRatio place exponent).2 * 2 ^ place := by
    rw [value]
    ring
  rw [scaled] at below above
  generalize unitRatio place exponent = ratio at *
  have below : (bottom : ℚ) * ratio.1 / ratio.2 * (2 ^ 53 - 3) ≤ top * 2 ^ 53 := by
    apply le_of_mul_le_mul_right _ unit
    linarith
  have above : top * 2 ^ 53 ≤ (bottom : ℚ) * ratio.1 / ratio.2 * (2 ^ 53 + 3) := by
    apply le_of_mul_le_mul_right _ unit
    linarith
  rw [div_mul_eq_mul_div, div_le_iff₀ fraction] at below
  rw [div_mul_eq_mul_div, le_div_iff₀ fraction] at above
  constructor
  · have less : ((2 ^ 53 - 3 : Nat) : ℚ) = 2 ^ 53 - 3 := by norm_num
    rw [lowest, ← Nat.cast_le (α := ℚ)]
    simp only [Nat.cast_mul, less, Nat.cast_pow, Nat.cast_ofNat]
    linarith
  · have more : ((2 ^ 53 + 3 : Nat) : ℚ) = 2 ^ 53 + 3 := by norm_num
    rw [highest, ← Nat.cast_le (α := ℚ)]
    simp only [Nat.cast_mul, more, Nat.cast_pow, Nat.cast_ofNat]
    linarith

theorem exponent_le (meeting : IsMeeting top place bottom exponent) :
    exponent ≤ (place + 25) * 30103 / 100000 + 1 := by
  have least := meeting.least
  have most := meeting.most
  obtain ⟨-, high⟩ := guess_bounds (by omega : -149 ≤ place + 25) (by omega)
  obtain ⟨below, -⟩ := abs_le.mp meeting.close
  have one : (1 : ℚ) ≤ bottom := by exact_mod_cast meeting.nonzero
  have upper : (top : ℚ) * 2 ^ place ≤ 2 ^ 25 * 2 ^ place := by
    have upper : (top : ℚ) ≤ 2 ^ 25 := by exact_mod_cast meeting.upper.le
    gcongr
  have decimal : (10 : ℚ) ^ exponent ≤ bottom * 10 ^ exponent :=
    le_mul_of_one_le_left (by positivity) one
  have less : (10 : ℚ) ^ exponent < 10 ^ ((place + 25) * 30103 / 100000 + 2) := by
    calc (10 : ℚ) ^ exponent < 2 ^ 26 * 2 ^ place := by
          have unit : (0 : ℚ) < 2 ^ place := by positivity
          linarith
      _ = 2 ^ (place + 25 + 1) := by
          rw [add_assoc, zpow_add₀ (by norm_num)]
          norm_num
          ring
      _ ≤ 10 ^ ((place + 25) * 30103 / 100000 + 2) := high
  have order := lt_of_tenPow_lt less
  omega

theorem lt_power (meeting : IsMeeting top place bottom exponent) :
    (top : ℚ) * 2 ^ place < 10 ^ (exponent + 8) := by
  obtain ⟨-, above⟩ := abs_le.mp meeting.close
  have power : (0 : ℚ) < 10 ^ exponent := by positivity
  have short : (bottom : ℚ) * 10 ^ exponent ≤ 2 ^ 24 * 10 ^ exponent := by
    have short : (bottom : ℚ) ≤ 2 ^ 24 := by exact_mod_cast meeting.short.le
    gcongr
  calc (top : ℚ) * 2 ^ place < 10 ^ 8 * 10 ^ exponent := by linarith
    _ = 10 ^ (exponent + 8) := by
        rw [zpow_add₀ (by norm_num), mul_comm]
        norm_num

theorem le_exponent (meeting : IsMeeting top place bottom exponent)
    (large : -150 < place) : (place + 25) * 30103 / 100000 - 8 ≤ exponent := by
  have most := meeting.most
  obtain ⟨low, -⟩ := guess_bounds (by omega : -149 ≤ place + 25) (by omega)
  have full : (2 : ℚ) ^ 24 ≤ top := by exact_mod_cast meeting.full large
  have less : (10 : ℚ) ^ ((place + 25) * 30103 / 100000 - 1) < 10 ^ (exponent + 8) := by
    calc (10 : ℚ) ^ ((place + 25) * 30103 / 100000 - 1) ≤ 2 ^ (place + 25 - 1) := low
      _ = 2 ^ 24 * 2 ^ place := by
          rw [add_sub_assoc, zpow_add₀ (by norm_num), mul_comm]
          norm_num
      _ ≤ top * 2 ^ place := by gcongr
      _ < 10 ^ (exponent + 8) := meeting.lt_power
  have order := lt_of_tenPow_lt less
  omega

theorem least_exponent (meeting : IsMeeting top (-150) bottom exponent) :
    -53 ≤ exponent := by
  have one : (1 : ℚ) ≤ top := by exact_mod_cast meeting.point
  have less : (10 : ℚ) ^ (-46 : Int) < 10 ^ (exponent + 8) := by
    calc (10 : ℚ) ^ (-46 : Int) ≤ 1 * 2 ^ (-150 : Int) := by norm_num
      _ ≤ top * 2 ^ (-150 : Int) := by gcongr
      _ < 10 ^ (exponent + 8) := meeting.lt_power
  have order := lt_of_tenPow_lt less
  omega

theorem apart_or_closest (meeting : IsMeeting top place bottom exponent) :
    isApart place exponent = true ∨ isClosest place exponent = true := by
  have least := meeting.least
  have most := meeting.most
  have high := meeting.exponent_le
  obtain ⟨step, same⟩ := Int.eq_ofNat_of_zero_le (by omega : 0 ≤ place + 150)
  obtain ⟨back, same'⟩ := Int.eq_ofNat_of_zero_le
    (by omega : 0 ≤ (place + 25) * 30103 / 100000 + 1 - exponent)
  obtain rfl : place = Int.ofNat step - 150 := by
    rw [Int.ofNat_eq_natCast]
    omega
  obtain rfl : exponent = (Int.ofNat step - 150 + 25) * 30103 / 100000 + 1 - Int.ofNat back := by
    simp only [Int.ofNat_eq_natCast] at same' ⊢
    omega
  have few : back < if step = 0 then 17 else 10 := by
    split_ifs with first
    · subst first
      have low := meeting.least_exponent
      omega
    · have low := meeting.le_exponent (by rw [Int.ofNat_eq_natCast]; omega)
      omega
  have apart := isApart_or_isClosest step (by omega) back few
  rwa [Bool.or_eq_true] at apart

theorem exact (meeting : IsMeeting top place bottom exponent)
    (apart : isApart place exponent = true) :
    exponent.natAbs ≤ 22 ∧ (top : ℚ) * 2 ^ place = bottom * 10 ^ exponent := by
  obtain ⟨short, same⟩ :=
    isApart_sound apart meeting.isClose meeting.point meeting.nonzero meeting.upper meeting.short
  have fraction : (0 : ℚ) < (unitRatio place exponent).2 := by
    exact_mod_cast unitRatio_pos place exponent
  have value := unitRatio_value place exponent
  have same : (top : ℚ) * (unitRatio place exponent).2 = bottom * (unitRatio place exponent).1 := by
    exact_mod_cast same
  refine ⟨short, ?_⟩
  rw [div_eq_div_iff fraction.ne' (by positivity)] at value
  apply mul_right_cancel₀ fraction.ne'
  calc (top : ℚ) * 2 ^ place * (unitRatio place exponent).2
      = top * (unitRatio place exponent).2 * 2 ^ place := by ring
    _ = bottom * ((unitRatio place exponent).1 * 2 ^ place) := by rw [same, mul_assoc]
    _ = bottom * 10 ^ exponent * (unitRatio place exponent).2 := by rw [value, mul_assoc]

/-- Between two brackets that share a fraction, only that one is left. -/
theorem eq_shared (meeting : IsMeeting top place bottom exponent)
    (outer middle inner : Nat × Nat)
    (spans : (Bracket.mk outer inner).spans (lowest (unitRatio place exponent))
      (highest (unitRatio place exponent)) = true)
    (before : (Bracket.mk outer middle).isEmpty = true)
    (after : (Bracket.mk middle inner).isEmpty = true)
    (coprime : middle.2.Coprime middle.1) (positive : 0 < middle.2)
    (twice : 2 ^ 25 ≤ 2 * middle.1) :
    top = middle.1 ∧ bottom = middle.2 := by
  obtain ⟨above, below⟩ := meeting.isClose.between spans meeting.point meeting.nonzero
  have least := Bracket.not_between before meeting.upper meeting.short above
  have same : top * middle.2 = middle.1 * bottom := by
    apply Nat.le_antisymm _ least
    by_contra more
    have outside := Bracket.not_between after meeting.upper meeting.short (not_le.mp more)
    exact absurd below (not_lt.mpr outside)
  exact eq_of_lowest coprime positive same meeting.nonzero (meeting.upper.trans_le twice)

theorem closest_low (meeting : IsMeeting top (-108) bottom (-32)) :
    top = 22841339 ∧ bottom = 7038531 := by
  apply meeting.eq_shared (14495598, 4466801) (22841339, 7038531) (31187080, 9610261)
  all_goals decide +kernel

theorem closest_high (meeting : IsMeeting top (-107) bottom (-32)) :
    top = 22841339 ∧ bottom = 14077062 := by
  apply meeting.eq_shared (7247799, 4466801) (22841339, 14077062) (15593540, 9610261)
  all_goals decide +kernel

theorem sameSide {double : Magnitude} (meeting : IsMeeting top place bottom exponent)
    (found : doubleOfDecimal? bottom exponent = some double)
    (workedOut : IsWorkedOut ⟨bottom, exponent⟩ double) :
    SameSide (Decimal.value ⟨bottom, exponent⟩) double.value (top * 2 ^ place) := by
  rcases meeting.apart_or_closest with apart | closest
  · -- Only the point itself is so close, and double precision holds it.
    obtain ⟨short, same⟩ := meeting.exact apart
    have holds : BinaryFormat.double.Holds (Decimal.value ⟨bottom, exponent⟩) := by
      refine ⟨top, place, meeting.upper.trans (by decide), le_trans (by decide) meeting.least, ?_⟩
      exact same.symm
    exact .inr (.inl ⟨same.symm, (workedOut.exact short holds).trans same.symm⟩)
  · simp only [isClosest, Bool.and_eq_true, Bool.or_eq_true, beq_iff_eq] at closest
    -- In these two places one decimal is that close without being the point.  What is worked
    -- out for it is computed, and is below the point as well.
    obtain ⟨rfl, rfl | rfl⟩ := closest
    · obtain ⟨rfl, rfl⟩ := meeting.closest_low
      have double : doubleOfDecimal? 7038531 (-32) = some ⟨6131425250115583, -136⟩ := by
        decide +kernel
      cases found.symm.trans double
      left
      norm_num [Decimal.value, Magnitude.value]
    · obtain ⟨rfl, rfl⟩ := meeting.closest_high
      have double : doubleOfDecimal? 14077062 (-32) = some ⟨6131425250115583, -135⟩ := by
        decide +kernel
      cases found.symm.trans double
      left
      norm_num [Decimal.value, Magnitude.value]

end IsMeeting

end PrintConnector.Number
