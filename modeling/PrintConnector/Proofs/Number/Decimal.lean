import Mathlib.Data.Nat.Multiplicity
import PrintConnector.Number.Shortest

namespace PrintConnector.Number.Decimal

variable {decimal : Decimal} {digits fuel : Nat} {exponent : Int}

/-- The digits do not end in a zero, or the decimal is zero. -/
def IsProper (decimal : Decimal) : Prop :=
  decimal.digits % 10 ≠ 0 ∨ decimal = ⟨0, 0⟩

theorem dropZeros_of_solid (solid : digits % 10 ≠ 0) :
    dropZeros fuel ⟨digits, exponent⟩ = ⟨digits, exponent⟩ := by
  cases fuel with
  | zero => rfl
  | succ fuel => rw [dropZeros, if_neg solid]

theorem dropZeros_zeros (solid : digits % 10 ≠ 0) {count : Nat} (enough : count ≤ fuel) :
    dropZeros fuel ⟨digits * 10 ^ count, exponent⟩ = ⟨digits, exponent + count⟩ := by
  induction count generalizing fuel exponent with
  | zero =>
      rw [pow_zero, Nat.mul_one, dropZeros_of_solid solid]
      simp
  | succ count ih =>
      obtain ⟨fuel, rfl⟩ := Nat.exists_eq_add_one.mpr (Nat.zero_lt_of_lt enough)
      have more : digits * 10 ^ (count + 1) = 10 * (digits * 10 ^ count) := by ring
      have ended : 10 * (digits * 10 ^ count) % 10 = 0 := Nat.mul_mod_right ..
      have less : 10 * (digits * 10 ^ count) / 10 = digits * 10 ^ count :=
        Nat.mul_div_right _ (by decide)
      rw [more, dropZeros, if_pos ended, less, ih (Nat.le_of_succ_le_succ enough)]
      simp only [Decimal.mk.injEq, true_and]
      push_cast
      ring

theorem normal_zeros (solid : digits % 10 ≠ 0) (count : Nat) :
    normal ⟨digits * 10 ^ count, exponent⟩ = ⟨digits, exponent + count⟩ := by
  have positive : 0 < digits := by omega
  have nonzero : digits * 10 ^ count ≠ 0 := by positivity
  have enough : count ≤ (digits * 10 ^ count).log2 := by
    rw [Nat.le_log2 nonzero]
    calc 2 ^ count ≤ 10 ^ count := Nat.pow_le_pow_left (by decide) count
      _ ≤ digits * 10 ^ count := Nat.le_mul_of_pos_left _ positive
  rw [normal, if_neg nonzero, dropZeros_zeros solid enough]

theorem IsProper.normal_zeros (proper : decimal.IsProper) (count : Nat) :
    normal ⟨decimal.digits * 10 ^ count, decimal.exponent - count⟩ = decimal := by
  rcases proper with solid | rfl
  · rw [Decimal.normal_zeros solid]
    simp
  · simp [normal]

theorem IsProper.normal_eq (proper : decimal.IsProper) : decimal.normal = decimal := by
  simpa using proper.normal_zeros 0

/-- What the normal form of a decimal other than zero is. -/
theorem exists_normal (nonzero : decimal.digits ≠ 0) : ∃ count : Nat,
    decimal.digits = decimal.normal.digits * 10 ^ count ∧
      decimal.normal.exponent = decimal.exponent + count ∧ decimal.normal.digits % 10 ≠ 0 := by
  obtain ⟨digits, exponent⟩ := decimal
  obtain ⟨count, solid, indivisible, rfl⟩ :=
    Nat.exists_eq_pow_mul_and_not_dvd nonzero 10 (by decide)
  have solid : solid % 10 ≠ 0 := fun ended => indivisible (Nat.dvd_of_mod_eq_zero ended)
  refine ⟨count, ?_⟩
  rw [Nat.mul_comm, normal_zeros solid]
  exact ⟨rfl, rfl, solid⟩

theorem normal_proper (decimal : Decimal) : decimal.normal.IsProper := by
  by_cases zero : decimal.digits = 0
  · right
    rw [normal, if_pos zero]
  · obtain ⟨count, -, -, solid⟩ := exists_normal zero
    exact .inl solid

end PrintConnector.Number.Decimal
