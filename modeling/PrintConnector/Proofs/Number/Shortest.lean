import PrintConnector.Proofs.Number.Decimal
import PrintConnector.Proofs.Number.Double

namespace PrintConnector.Number

variable {magnitude : Magnitude} {decimal : Decimal} {ratio : Nat × Nat} {x : ℚ} {exponent : Int}

theorem lt_of_tenPow_lt {least most : Int} (less : (10 : ℚ) ^ least < 10 ^ most) : least < most :=
  (zpow_lt_zpow_iff_right₀ (by norm_num)).mp less

theorem decimalScale_pos (positive : 0 < ratio.2) (exponent : Int) :
    0 < (decimalScale ratio exponent).2 := by
  cases exponent with
  | ofNat zeros => exact Nat.mul_pos positive (Nat.pow_pos (by decide))
  | negSucc places => exact positive

theorem decimalScale_value (ratio : Nat × Nat) (exponent : Int) :
    ((decimalScale ratio exponent).1 : ℚ) / (decimalScale ratio exponent).2 =
      ratio.1 / ratio.2 / 10 ^ exponent := by
  cases exponent with
  | ofNat zeros =>
      simp only [decimalScale, Int.ofNat_eq_natCast, zpow_natCast, Nat.pow_eq]
      push_cast
      rw [div_div]
  | negSucc places =>
      simp only [decimalScale, zpow_negSucc, Nat.pow_eq]
      push_cast
      rw [div_inv_eq_mul, div_mul_eq_mul_div]

theorem decimalRatio_pos (digits : Nat) (exponent : Int) :
    0 < (Single.decimalRatio digits exponent).2 := by
  cases exponent with
  | ofNat zeros => exact Nat.one_pos
  | negSucc places => exact Nat.pow_pos (by decide)

theorem decimalRatio_value (decimal : Decimal) :
    ((Single.decimalRatio decimal.digits decimal.exponent).1 : ℚ) /
      (Single.decimalRatio decimal.digits decimal.exponent).2 = decimal.value := by
  obtain ⟨digits, exponent⟩ := decimal
  cases exponent with
  | ofNat zeros => simp [Single.decimalRatio, Decimal.value]
  | negSucc places => simp [Single.decimalRatio, Decimal.value, div_eq_mul_inv]

theorem Decimal.normal_value (decimal : Decimal) : decimal.normal.value = decimal.value := by
  by_cases zero : decimal.digits = 0
  · simp [normal, value, zero]
  · obtain ⟨count, digits, exponent, -⟩ := exists_normal zero
    rw [value, value, digits, exponent, zpow_add₀ (by norm_num), zpow_natCast]
    push_cast
    ring

/-- A magnitude as the 32-bit format writes it, other than zero. -/
structure Magnitude.IsCanonical (magnitude : Magnitude) : Prop where
  positive : 0 < magnitude.mantissa
  short : magnitude.mantissa < 2 ^ 24
  least : -149 ≤ magnitude.exponent
  most : magnitude.exponent ≤ 104
  full : -149 < magnitude.exponent → 2 ^ 23 ≤ magnitude.mantissa

/-- The decimals that round to it reach equally far to either side. -/
def Magnitude.IsEven (magnitude : Magnitude) : Prop :=
  magnitude.mantissa = 2 ^ 23 → magnitude.exponent = -149

namespace Magnitude

theorem IsCanonical.bounds (canonical : magnitude.IsCanonical) :
    2 ^ (-149 : Int) ≤ magnitude.value ∧ magnitude.value < 2 ^ (128 : Int) := by
  have one : (1 : ℚ) ≤ magnitude.mantissa := by exact_mod_cast canonical.positive
  have short : (magnitude.mantissa : ℚ) < 2 ^ (24 : Int) := by exact_mod_cast canonical.short
  have least : (2 : ℚ) ^ (-149 : Int) ≤ 2 ^ magnitude.exponent :=
    zpow_le_zpow_right₀ (by norm_num) canonical.least
  have most : (2 : ℚ) ^ magnitude.exponent ≤ 2 ^ (104 : Int) :=
    zpow_le_zpow_right₀ (by norm_num) canonical.most
  have positive : (0 : ℚ) < 2 ^ magnitude.exponent := by positivity
  constructor
  · calc (2 : ℚ) ^ (-149 : Int) ≤ 1 * 2 ^ magnitude.exponent := by rwa [one_mul]
      _ ≤ magnitude.value := by
          rw [value]
          gcongr
  · calc magnitude.value < 2 ^ (24 : Int) * 2 ^ magnitude.exponent := by
          rw [value]
          gcongr
      _ ≤ 2 ^ (24 : Int) * 2 ^ (104 : Int) := by gcongr
      _ = 2 ^ (128 : Int) := by norm_num

end Magnitude

theorem Interval.contains_iff (interval : Interval) :
    interval.contains exponent decimal = true ↔
      if interval.closed = true then
        interval.low ≤ decimal.value / 2 ^ exponent ∧ decimal.value / 2 ^ exponent ≤ interval.high
      else
        interval.low < decimal.value / 2 ^ exponent ∧
          decimal.value / 2 ^ exponent < interval.high := by
  have positive : 0 < (scaleDown (Single.decimalRatio decimal.digits decimal.exponent).1
      (Single.decimalRatio decimal.digits decimal.exponent).2 exponent).2 :=
    scaleDown_pos (decimalRatio_pos ..) exponent
  rw [← decimalRatio_value, ← scaleDown_value, contains]
  generalize scaleDown (Single.decimalRatio decimal.digits decimal.exponent).1
    (Single.decimalRatio decimal.digits decimal.exponent).2 exponent = scaled at positive ⊢
  have real : (0 : ℚ) < scaled.2 := by exact_mod_cast positive
  rw [le_div_iff₀ real, div_le_iff₀ real, lt_div_iff₀ real, div_lt_iff₀ real]
  norm_cast
  split_ifs <;> simp

theorem isNearest_iff {whole : Nat} : IsNearest whole x ↔
    if whole % 2 = 0 then (whole : ℚ) - 1 / 2 ≤ x ∧ x ≤ whole + 1 / 2
    else (whole : ℚ) - 1 / 2 < x ∧ x < whole + 1 / 2 := by
  constructor
  · rintro ⟨close, tie⟩
    obtain ⟨below, above⟩ := abs_le.mp close
    split_ifs with even
    · exact ⟨by linarith, by linarith⟩
    · have apart : |x - whole| ≠ 1 / 2 := fun half => even (tie half)
      obtain ⟨below, above⟩ := abs_lt.mp (lt_of_le_of_ne close apart)
      exact ⟨by linarith, by linarith⟩
  · intro inside
    split_ifs at inside with even
    · exact ⟨abs_le.mpr ⟨by linarith, by linarith⟩, fun _ => even⟩
    · have less : |x - whole| < 1 / 2 := abs_lt.mpr ⟨by linarith, by linarith⟩
      exact ⟨less.le, fun half => absurd half less.ne⟩

/-- In units of the last place, the decimals of an even magnitude are those whose
nearest whole number is its mantissa. -/
theorem Magnitude.IsCanonical.contains_iff (canonical : magnitude.IsCanonical)
    (even : magnitude.IsEven) :
    (Interval.around magnitude).contains (magnitude.exponent - 2) decimal = true ↔
      IsNearest magnitude.mantissa (decimal.value / 2 ^ magnitude.exponent) := by
  have low : (Interval.around magnitude).low = 4 * magnitude.mantissa - 2 := by
    have symmetric : ¬ (magnitude.mantissa = 8388608 ∧ -149 < magnitude.exponent) := by
      rintro ⟨power, large⟩
      exact large.ne (even power).symm
    simp [Interval.around, symmetric]
  have high : (Interval.around magnitude).high = 4 * magnitude.mantissa + 2 := rfl
  have closed : ((Interval.around magnitude).closed = true) = (magnitude.mantissa % 2 = 0) := by
    simp [Interval.around]
  have lowReal : ((4 * magnitude.mantissa - 2 : Nat) : ℚ) = 4 * (magnitude.mantissa - 1 / 2) := by
    have enough : 2 ≤ 4 * magnitude.mantissa := by
      have positive := canonical.positive
      omega
    rw [Nat.cast_sub enough]
    push_cast
    ring
  have highReal : ((4 * magnitude.mantissa + 2 : Nat) : ℚ) = 4 * (magnitude.mantissa + 1 / 2) := by
    push_cast
    ring
  have quarters : decimal.value / 2 ^ (magnitude.exponent - 2) =
      4 * (decimal.value / 2 ^ magnitude.exponent) := by
    rw [zpow_sub₀ (by norm_num)]
    field_simp
    norm_num
  have four : (0 : ℚ) < 4 := by norm_num
  rw [Interval.contains_iff, isNearest_iff, low, high, lowReal, highReal, quarters,
    mul_le_mul_iff_right₀ four, mul_le_mul_iff_right₀ four, mul_lt_mul_iff_right₀ four,
    mul_lt_mul_iff_right₀ four]
  simp only [closed]

section Search

theorem IsNearest.closer {whole : Nat} {y : ℚ} (near : IsNearest whole x)
    (closer : |y - whole| ≤ |x - whole|) : IsNearest whole y where
  close := closer.trans near.close
  tie half := near.tie (le_antisymm near.close (half ▸ closer))

theorem IsNearest.least {whole : Nat} (near : IsNearest whole x) (other : Nat) :
    |(whole : ℚ) - x| ≤ |(other : ℚ) - x| := by
  rcases eq_or_ne whole other with rfl | apart
  · exact le_rfl
  · have step : (1 : ℚ) ≤ |(whole : ℚ) - other| := by
      have step : 1 ≤ |(whole : Int) - other| := Int.one_le_abs (by omega)
      exact_mod_cast step
    have between : |(whole : ℚ) - other| ≤ |(whole : ℚ) - x| + |x - other| := abs_sub_le ..
    have close := near.close
    rw [abs_sub_comm] at close
    rw [abs_sub_comm x] at between
    linarith

/-- Where the guess at a leading exponent comes from: its factor is `log 2 / log 10`,
cut to five places. -/
theorem guess_close : ∀ step < 278,
    let log : Int := Int.ofNat step - 149
    let guess := log * 30103 / 100000
    let low := decimalScale (scaleDown 1 1 (-(log - 1))) (guess - 1)
    let high := decimalScale (scaleDown 1 1 (-(log + 1))) (guess + 2)
    low.2 ≤ low.1 ∧ high.1 ≤ high.2 := by
  decide +kernel

theorem decimalScale_le_iff (positive : 0 < ratio.2) (exponent : Int) :
    (decimalScale ratio exponent).2 ≤ (decimalScale ratio exponent).1 ↔
      10 ^ exponent ≤ (ratio.1 : ℚ) / ratio.2 := by
  have real : (0 : ℚ) < (decimalScale ratio exponent).2 := by
    exact_mod_cast decimalScale_pos positive exponent
  rw [← one_le_div₀ (by positivity : (0 : ℚ) < 10 ^ exponent), ← decimalScale_value,
    one_le_div₀ real, Nat.cast_le]

theorem le_decimalScale_iff (positive : 0 < ratio.2) (exponent : Int) :
    (decimalScale ratio exponent).1 ≤ (decimalScale ratio exponent).2 ↔
      (ratio.1 : ℚ) / ratio.2 ≤ 10 ^ exponent := by
  have real : (0 : ℚ) < (decimalScale ratio exponent).2 := by
    exact_mod_cast decimalScale_pos positive exponent
  rw [← div_le_one₀ (by positivity : (0 : ℚ) < 10 ^ exponent), ← decimalScale_value,
    div_le_one₀ real, Nat.cast_le]

theorem guess_bounds {log : Int} (large : -149 ≤ log) (small : log ≤ 128) :
    (10 : ℚ) ^ (log * 30103 / 100000 - 1) ≤ 2 ^ (log - 1) ∧
      (2 : ℚ) ^ (log + 1) ≤ 10 ^ (log * 30103 / 100000 + 2) := by
  have power (exponent : Int) :
      ((scaleDown 1 1 (-exponent)).1 : ℚ) / (scaleDown 1 1 (-exponent)).2 = 2 ^ exponent := by
    rw [scaleDown_value, zpow_neg]
    simp
  obtain ⟨step, same⟩ := Int.eq_ofNat_of_zero_le (by omega : 0 ≤ log + 149)
  obtain rfl : log = Int.ofNat step - 149 := by
    rw [Int.ofNat_eq_natCast]
    omega
  obtain ⟨low, high⟩ := guess_close step (by omega)
  rw [decimalScale_le_iff (scaleDown_pos Nat.one_pos _), power] at low
  rw [le_decimalScale_iff (scaleDown_pos Nat.one_pos _), power] at high
  exact ⟨low, high⟩

theorem leadingExponent_bounds (positive : 0 < ratio.2) (value : (ratio.1 : ℚ) / ratio.2 = x)
    (large : 2 ^ (-149 : Int) ≤ x) (small : x < 2 ^ (128 : Int)) :
    10 ^ leadingExponent ratio ≤ x ∧ x < 10 ^ (leadingExponent ratio + 1) := by
  have above : 0 < x := lt_of_lt_of_le (by positivity) large
  have nonzero := numerator_pos above value
  obtain ⟨log, defLog⟩ : ∃ log : Int, log = (ratio.1.log2 : Int) - ratio.2.log2 := ⟨_, rfl⟩
  obtain ⟨low, high⟩ := log2_bounds nonzero positive
  rw [← defLog, value] at low high
  have two : (1 : ℚ) < 2 := by norm_num
  have least := (zpow_lt_zpow_iff_right₀ two).mp (large.trans_lt high)
  have most := (zpow_lt_zpow_iff_right₀ two).mp (low.trans_lt small)
  obtain ⟨fewer, more⟩ := guess_bounds (by omega : -149 ≤ log) (by omega)
  simp only [leadingExponent, ← defLog, decide_eq_true_eq, decimalScale_le_iff positive, value]
  split_ifs with first second
  · refine ⟨first, high.trans_le ?_⟩
    rwa [add_assoc]
  · exact ⟨second, not_le.mp first⟩
  · refine ⟨fewer.trans low, ?_⟩
    rw [sub_add_cancel]
    exact not_le.mp second

theorem exists_gridPoints (positive : 0 < ratio.2) (value : (ratio.1 : ℚ) / ratio.2 = x)
    (exponent : Int) : ∃ nearest other : Nat,
      gridPoints ratio exponent = [⟨nearest, exponent⟩, ⟨other, exponent⟩] ∧
        IsNearest nearest (x / 10 ^ exponent) := by
  refine ⟨_, _, rfl, ?_⟩
  rw [← value, ← decimalScale_value]
  exact roundDiv_isNearest (decimalScale_pos positive exponent)

theorem IsNearest.grid_close {nearest : Nat} (near : IsNearest nearest (x / 10 ^ exponent)) :
    |nearest * 10 ^ exponent - x| ≤ 10 ^ exponent / 2 := by
  have unit : (0 : ℚ) < 10 ^ exponent := by positivity
  have back : nearest * 10 ^ exponent - x = -(x / 10 ^ exponent - nearest) * 10 ^ exponent := by
    field_simp
    ring
  have half := near.close
  rw [back, abs_mul, abs_neg, abs_of_pos unit]
  calc |x / 10 ^ exponent - nearest| * 10 ^ exponent ≤ 1 / 2 * 10 ^ exponent := by gcongr
    _ = 10 ^ exponent / 2 := by ring

theorem IsNearest.grid_least {nearest : Nat} (near : IsNearest nearest (x / 10 ^ exponent))
    (other : Nat) :
    |nearest * 10 ^ exponent - x| ≤ |other * 10 ^ exponent - x| := by
  have unit : (0 : ℚ) < 10 ^ exponent := by positivity
  have back (whole : Nat) : whole * 10 ^ exponent - x =
      (whole - x / 10 ^ exponent) * 10 ^ exponent := by
    field_simp
  rw [back, back, abs_mul, abs_mul, abs_of_pos unit]
  have least := near.least other
  gcongr

namespace Magnitude

theorem abs_div_sub (magnitude : Magnitude) (y : ℚ) :
    |y / 2 ^ magnitude.exponent - magnitude.mantissa| =
      |y - magnitude.value| / 2 ^ magnitude.exponent := by
  have unit : (0 : ℚ) < 2 ^ magnitude.exponent := by positivity
  rw [value, ← abs_of_pos unit, ← abs_div, abs_of_pos unit]
  congr 1
  field_simp

theorem IsCanonical.find?_grid (canonical : magnitude.IsCanonical) (even : magnitude.IsEven)
    (found : (gridPoints magnitude.ratio exponent).find? (fun decimal =>
      (Interval.around magnitude).contains (magnitude.exponent - 2) decimal) = some decimal) :
    decimal.exponent = exponent ∧ IsNearest decimal.digits (magnitude.value / 10 ^ exponent) ∧
      IsNearest magnitude.mantissa (decimal.value / 2 ^ magnitude.exponent) := by
  obtain ⟨nearest, other, points, near⟩ :=
    exists_gridPoints magnitude.ratio_pos magnitude.ratio_value exponent
  have inside := List.find?_some found
  rw [canonical.contains_iff even] at inside
  rw [points, List.find?_cons] at found
  split at found
  · cases found
    exact ⟨rfl, near, inside⟩
  · rename_i outside
    rw [List.find?_singleton] at found
    split at found
    · -- The nearest point is in the interval whenever the other one is.
      cases found
      have closer := near.grid_least other
      have within : IsNearest magnitude.mantissa
          (Decimal.value ⟨nearest, exponent⟩ / 2 ^ magnitude.exponent) := by
        apply inside.closer
        rw [abs_div_sub, abs_div_sub]
        exact div_le_div_of_nonneg_right closer (by positivity)
      rw [← canonical.contains_iff even] at within
      simp [within] at outside
    · contradiction

theorem IsCanonical.leading (canonical : magnitude.IsCanonical) :
    10 ^ leadingExponent magnitude.ratio ≤ magnitude.value ∧
      magnitude.value < 10 ^ (leadingExponent magnitude.ratio + 1) :=
  leadingExponent_bounds magnitude.ratio_pos magnitude.ratio_value canonical.bounds.1
    canonical.bounds.2

/-- The grid of the ninth digit is finer than the last place. -/
theorem IsCanonical.ninth_fine (canonical : magnitude.IsCanonical) :
    (10 : ℚ) ^ (leadingExponent magnitude.ratio - (8 : Nat)) < 2 ^ magnitude.exponent := by
  have unit : (0 : ℚ) < 2 ^ magnitude.exponent := by positivity
  have short : (magnitude.mantissa : ℚ) < 2 ^ 24 := by exact_mod_cast canonical.short
  rw [zpow_sub₀ (by norm_num), zpow_natCast, div_lt_iff₀ (by positivity)]
  calc (10 : ℚ) ^ leadingExponent magnitude.ratio ≤ magnitude.value := canonical.leading.1
    _ < 2 ^ 24 * 2 ^ magnitude.exponent := by
        rw [value]
        gcongr
    _ ≤ 2 ^ magnitude.exponent * 10 ^ 8 := by linarith

theorem IsCanonical.find?_ninth (canonical : magnitude.IsCanonical) (even : magnitude.IsEven) :
    ((gridPoints magnitude.ratio (leadingExponent magnitude.ratio - (8 : Nat))).find? fun decimal =>
      (Interval.around magnitude).contains (magnitude.exponent - 2) decimal).isSome = true := by
  obtain ⟨nearest, other, points, near⟩ := exists_gridPoints magnitude.ratio_pos
    magnitude.ratio_value (leadingExponent magnitude.ratio - (8 : Nat))
  have unit : (0 : ℚ) < 2 ^ magnitude.exponent := by positivity
  have less : |nearest * 10 ^ (leadingExponent magnitude.ratio - (8 : Nat)) - magnitude.value| /
      2 ^ magnitude.exponent < 1 / 2 := by
    have fine := canonical.ninth_fine
    rw [div_lt_iff₀ unit]
    calc |nearest * 10 ^ (leadingExponent magnitude.ratio - (8 : Nat)) - magnitude.value|
        ≤ 10 ^ (leadingExponent magnitude.ratio - (8 : Nat)) / 2 := near.grid_close
      _ < 2 ^ magnitude.exponent / 2 := by gcongr
      _ = 1 / 2 * 2 ^ magnitude.exponent := by ring
  rw [← abs_div_sub] at less
  rw [points, List.find?_isSome]
  refine ⟨_, List.mem_cons_self, ?_⟩
  rw [canonical.contains_iff even]
  exact ⟨less.le, fun half => absurd half less.ne⟩

theorem IsCanonical.digits_bounds {count digits : Nat} (canonical : magnitude.IsCanonical)
    (few : count ≤ 8)
    (near : IsNearest digits (magnitude.value / 10 ^ (leadingExponent magnitude.ratio - count))) :
    0 < digits ∧ digits ≤ 10 ^ 9 := by
  obtain ⟨above, below⟩ := canonical.leading
  have unit : (0 : ℚ) < 10 ^ (leadingExponent magnitude.ratio - count) := by positivity
  constructor
  · apply near.pos
    rw [one_le_div₀ unit]
    apply le_trans _ above
    apply zpow_le_zpow_right₀ (by norm_num)
    omega
  · apply near.le
    rw [div_lt_iff₀ unit]
    calc magnitude.value < 10 ^ (leadingExponent magnitude.ratio + 1) := below
      _ ≤ 10 ^ ((9 : Nat) + (leadingExponent magnitude.ratio - count) : Int) := by
          apply zpow_le_zpow_right₀ (by norm_num)
          omega
      _ = (10 ^ 9 : Nat) * 10 ^ (leadingExponent magnitude.ratio - count) := by
          rw [zpow_add₀ (by norm_num), zpow_natCast]
          push_cast
          rfl

/-- A decimal of nine digits at most, the nearest to a magnitude on its grid, that rounds
to it. -/
structure IsHit (magnitude : Magnitude) (decimal : Decimal) : Prop where
  nonzero : 0 < decimal.digits
  few : decimal.digits ≤ 10 ^ 9
  grid : |decimal.value - magnitude.value| ≤ 10 ^ decimal.exponent / 2
  near : IsNearest magnitude.mantissa (decimal.value / 2 ^ magnitude.exponent)

theorem IsCanonical.exists_shortest (canonical : magnitude.IsCanonical) (even : magnitude.IsEven) :
    ∃ decimal, magnitude.IsHit decimal ∧ magnitude.shortest = decimal.normal := by
  obtain ⟨decimal, hit⟩ : ∃ decimal, ((List.range 9).findSome? fun (count : Nat) =>
      (gridPoints magnitude.ratio (leadingExponent magnitude.ratio - count)).find? fun decimal =>
        (Interval.around magnitude).contains (magnitude.exponent - 2) decimal) = some decimal := by
    -- At the latest the grid of the ninth digit has one.
    rw [← Option.isSome_iff_exists, List.findSome?_isSome_iff]
    exact ⟨8, by decide, canonical.find?_ninth even⟩
  obtain ⟨count, inRange, found⟩ := List.exists_of_findSome?_eq_some hit
  have few : count ≤ 8 := Nat.le_of_lt_succ (List.mem_range.mp inRange)
  obtain ⟨place, near, inside⟩ := canonical.find?_grid even found
  obtain ⟨nonzero, short⟩ := canonical.digits_bounds few near
  have close := near.grid_close
  rw [← place] at close
  refine ⟨decimal, ⟨nonzero, short, close, inside⟩, ?_⟩
  simp only [shortest, hit, Option.getD_some]

end Magnitude

end Search

end PrintConnector.Number
