import Mathlib.Tactic.IntervalCases
import PrintConnector.Number.Numeral
import PrintConnector.Text.Blank

namespace PrintConnector.Number

variable {base value bound : Nat} {text : List Char}

theorem digitValue?_digitChar (small : base ≤ 16) (digit : value < base) :
    digitValue? base value.digitChar = some value := by
  have range : value < 16 := by omega
  interval_cases value <;> simp [digitValue?, Nat.digitChar, digit]

theorem readDigits?_toDigits (large : 1 < base) (small : base ≤ 16) (value : Nat) :
    readDigits? base 0 (Nat.toDigits base value) = some value := by
  induction value using Nat.strongRecOn with
  | ind value ih =>
      rw [Nat.toDigits_eq_if large]
      split
      · rename_i digit
        simp [readDigits?, digitValue?_digitChar small digit]
      · rename_i more
        have smaller : value / base < value := Nat.div_lt_self (by omega) large
        have digit : value % base < base := Nat.mod_lt _ (by omega)
        rw [readDigits?_append, ih _ smaller]
        simp only [Option.bind_some, readDigits?, digitValue?_digitChar small digit]
        exact congrArg some (Nat.div_add_mod' value base)

theorem readDigits?_zeros (large : 1 < base) (zeros : Nat) :
    readDigits? base 0 (List.replicate zeros '0') = some 0 := by
  induction zeros with
  | zero => rfl
  | succ zeros ih =>
      have zero : digitValue? base '0' = some 0 := by
        simp [digitValue?]
        omega
      simp [List.replicate_succ, readDigits?, zero, ih]

/-- Capital letters are digits of the same value. -/
theorem digitValue?_toLower (base : Nat) (c : Char) :
    digitValue? base c.toLower = digitValue? base c := by
  by_cases upper : 65 ≤ c.toNat ∧ c.toNat ≤ 90
  · obtain ⟨lower, higher⟩ := upper
    obtain ⟨code, same⟩ : ∃ code, code = c.toNat := ⟨_, rfl⟩
    obtain rfl : c = Char.ofNat code := by rw [same, Char.ofNat_toNat]
    rw [← same] at lower higher
    interval_cases code <;> rfl
  · have kept : c.toLower = c := by
      refine dif_neg fun capital => upper ?_
      exact ⟨capital.1, capital.2⟩
    rw [kept]

theorem readDigits?_map_toLower (total : Nat) :
    readDigits? base total (text.map Char.toLower) = readDigits? base total text := by
  induction text generalizing total with
  | nil => rfl
  | cons c rest ih => simp only [List.map_cons, readDigits?, digitValue?_toLower, ih]

/-- Zeros in front and capital letters change nothing. -/
theorem readDigits?_of_spells (large : 1 < base) (small : base ≤ 16)
    (spelled : Spells base value text) : readDigits? base 0 text = some value := by
  obtain ⟨zeros, lowered⟩ := spelled
  rw [← readDigits?_map_toLower, lowered, readDigits?_append, readDigits?_zeros large]
  exact readDigits?_toDigits large small value

theorem Spells.ne_nil (spelled : Spells base value text) : text ≠ [] := by
  rintro rfl
  obtain ⟨zeros, empty⟩ := spelled
  exact Nat.toDigits_ne_nil (List.append_eq_nil_iff.mp empty.symm).2

/-- A numeral is made of digits. -/
theorem isDigit_of_readDigits? {total : Nat} (read : readDigits? base total text = some value) :
    ∀ c ∈ text, (digitValue? base c).isSome := by
  induction text generalizing total with
  | nil => simp
  | cons first rest ih =>
      cases digit : digitValue? base first with
      | none => simp [readDigits?, digit] at read
      | some digitValue =>
          simp only [readDigits?, digit, Option.bind_eq_bind, Option.bind_some] at read
          intro c member
          rcases List.mem_cons.mp member with rfl | later
          · simp [digit]
          · exact ih read c later

theorem code_of_digit {c : Char} (digit : (digitValue? base c).isSome) :
    (48 ≤ c.toNat ∧ c.toNat ≤ 57) ∨ (97 ≤ c.toNat ∧ c.toNat ≤ 102) ∨
      (65 ≤ c.toNat ∧ c.toNat ≤ 70) := by
  unfold digitValue? at digit
  split at digit
  · rename_i range
    simp only [Bool.and_eq_true, decide_eq_true_eq] at range
    exact .inl ⟨range.1, range.2⟩
  · split at digit
    · rename_i range
      simp only [Bool.and_eq_true, decide_eq_true_eq] at range
      exact .inr (.inl ⟨range.1, range.2⟩)
    · split at digit
      · rename_i range
        simp only [Bool.and_eq_true, decide_eq_true_eq] at range
        exact .inr (.inr ⟨range.1, range.2⟩)
      · contradiction

theorem not_isBlank_of_digit {c : Char} (digit : (digitValue? base c).isSome) :
    Text.isBlank c = false := by
  have code := code_of_digit digit
  simp only [Text.isBlank, Bool.or_eq_false_iff, Bool.and_eq_false_iff, beq_eq_false_iff_ne,
    decide_eq_false_iff_not]
  omega

theorem natural?_of_readDigits? (read : readDigits? base 0 text = some value) (some : text ≠ [])
    (fits : value < bound) : natural? base bound text = .some value := by
  cases text with
  | nil => contradiction
  | cons first rest =>
      have unsigned : first ≠ '+' := by
        rintro rfl
        have plus := isDigit_of_readDigits? read '+' (by simp)
        simp [digitValue?] at plus
      simp [natural?, unsigned?, unsigned, read, fits]

theorem natural?_of_spells (large : 1 < base) (small : base ≤ 16)
    (spelled : Spells base value text) (fits : value < bound) :
    natural? base bound text = some value :=
  natural?_of_readDigits? (readDigits?_of_spells large small spelled) spelled.ne_nil fits

theorem uint16?_digits (fits : value < 65536) : uint16? (digits value) = some value :=
  natural?_of_readDigits? (readDigits?_toDigits (by decide) (by decide) value)
    Nat.toDigits_ne_nil fits

end PrintConnector.Number
