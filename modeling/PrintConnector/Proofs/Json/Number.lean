import PrintConnector.Json.Parser
import PrintConnector.Json.Printer
import PrintConnector.Proofs.Number.Decimal
import PrintConnector.Proofs.Number.Numeral

namespace PrintConnector.Json

open PrintConnector.Number (Decimal readDigits? readDigits?_append)

variable {run rest : List Char} {negative : Bool} {decimal : Decimal}

/-- No digit follows. -/
def EndsRun (rest : List Char) : Prop :=
  ∀ c ∈ rest.head?, c.isDigit = false

/-- What follows is no part of a number. -/
def EndsNumber (rest : List Char) : Prop :=
  ∀ c ∈ rest.head?, c.isDigit = false ∧ c ≠ '.' ∧ c ≠ 'e' ∧ c ≠ 'E'

theorem EndsNumber.endsRun (ends : EndsNumber rest) : EndsRun rest :=
  fun c first => (ends c first).1

/-- A run of digits. -/
def IsRun (run : List Char) : Prop :=
  ∀ c ∈ run, c.isDigit = true

theorem IsRun.append {front back : List Char} (first : IsRun front) (second : IsRun back) :
    IsRun (front ++ back) := by
  intro c member
  rcases List.mem_append.mp member with inFront | inBack
  · exact first c inFront
  · exact second c inBack

theorem isRun_zeros (count : Nat) : IsRun (List.replicate count '0') := by
  intro c member
  rw [List.eq_of_mem_replicate member]
  rfl

theorem isRun_digits (value : Nat) : IsRun (Number.digits value) :=
  fun _ member => Nat.isDigit_of_mem_toDigits (by decide) (by decide) member

theorem digits_ne_nil (value : Nat) : Number.digits value ≠ [] :=
  Nat.toDigits_ne_nil

theorem readDigitRun?_run (digits : IsRun run) (solid : run ≠ []) (ends : EndsRun rest) :
    readDigitRun? (run ++ rest) = some (run, rest) := by
  have stops : rest.takeWhile Char.isDigit = [] ∧ rest.dropWhile Char.isDigit = rest := by
    cases rest with
    | nil => exact ⟨rfl, rfl⟩
    | cons c rest =>
        have apart := ends c rfl
        simp [apart]
  have notEmpty : run.isEmpty = false := List.isEmpty_eq_false_iff.mpr solid
  rw [readDigitRun?, List.takeWhile_append_of_pos digits, List.dropWhile_append_of_pos digits,
    stops.1, stops.2, List.append_nil]
  simp [notEmpty]

theorem readFraction?_point (digits : IsRun run) (solid : run ≠ []) (ends : EndsRun rest) :
    readFraction? ('.' :: (run ++ rest)) = some (some run, rest) := by
  rw [readFraction?, readDigitRun?_run digits solid ends]
  rfl

theorem readFraction?_none (ends : ∀ c ∈ rest.head?, c ≠ '.') :
    readFraction? rest = some (none, rest) := by
  cases rest with
  | nil => rfl
  | cons c rest =>
      have apart := ends c rfl
      rw [readFraction?]
      rintro _ ⟨⟩
      exact apart rfl

theorem readExponent?_none (ends : EndsNumber rest) : readExponent? rest = some (none, rest) := by
  cases rest with
  | nil => rfl
  | cons c rest =>
      obtain ⟨-, -, lower, upper⟩ := ends c rfl
      simp [readExponent?, lower, upper]

theorem readDigits?_digits (value : Nat) :
    readDigits? 10 0 (Number.digits value) = some value :=
  Number.readDigits?_toDigits (by decide) (by decide) value

/-- The exponent of a value, with its sign. -/
def exponentSign (exponent : Int) : Char :=
  if exponent < 0 then '-' else '+'

theorem readExponent?_written (exponent : Int) (ends : EndsRun rest) :
    readExponent? ('e' :: exponentSign exponent :: (Number.digits exponent.natAbs ++ rest)) =
      some (some exponent, rest) := by
  have run := readDigitRun?_run (isRun_digits exponent.natAbs) (digits_ne_nil _) ends
  by_cases below : exponent < 0
  · simp [readExponent?, exponentSign, below, run, readDigits?_digits, abs_of_neg below]
  · have positive : 0 ≤ exponent := Int.not_lt.mp below
    simp [readExponent?, exponentSign, below, run, readDigits?_digits, abs_of_nonneg positive]

/-- The first digit of a number other than zero is none. -/
theorem head_digits_ne_zero {value : Nat} (nonzero : value ≠ 0) :
    (Number.digits value).head? ≠ some '0' := by
  induction value using Nat.strongRecOn with
  | ind value ih =>
      rw [Number.digits, Nat.toDigits_eq_if (by decide)]
      split
      · rename_i small
        interval_cases value <;> simp_all [Nat.digitChar]
      · rename_i large
        have smaller : value / 10 < value := Nat.div_lt_self (by omega) (by decide)
        have first := ih _ smaller (by omega)
        rw [Number.digits] at first
        rw [List.head?_append_of_ne_nil _ Nat.toDigits_ne_nil]
        exact first

/-- What a whole part is: zero, or digits that do not start with it. -/
theorem readWhole?_run (digits : IsRun run) (solid : run ≠ [])
    (leads : run.head? ≠ some '0' ∨ run.length = 1) (ends : EndsRun rest) :
    readWhole? (run ++ rest) = some (run, rest) := by
  rw [readWhole?, readDigitRun?_run digits solid ends]
  rcases leads with leads | single
  · simp [leads]
  · simp [single]

theorem leads_digits (value : Nat) :
    (Number.digits value).head? ≠ some '0' ∨ (Number.digits value).length = 1 := by
  by_cases zero : value = 0
  · subst zero
    exact .inr rfl
  · exact .inl (head_digits_ne_zero zero)

theorem readNumber?_whole (value : Nat) (ends : EndsNumber rest) :
    readNumber? false (Number.digits value ++ rest) = some (.whole value, rest) := by
  have whole := readWhole?_run (isRun_digits value) (digits_ne_nil value) (leads_digits value)
    ends.endsRun
  have point := readFraction?_none fun c first => (ends c first).2.1
  simp [readNumber?, whole, point, readExponent?_none ends, readDigits?_digits]

theorem readNumber?_negative {value : Nat} (nonzero : value ≠ 0) (ends : EndsNumber rest) :
    readNumber? true (Number.digits value ++ rest) = some (.whole (-value), rest) := by
  have whole := readWhole?_run (isRun_digits value) (digits_ne_nil value) (leads_digits value)
    ends.endsRun
  have point := readFraction?_none fun c first => (ends c first).2.1
  simp [readNumber?, whole, point, readExponent?_none ends, readDigits?_digits, nonzero]

/-- The text of a fraction, if there is one. -/
def fractionText : Option (List Char) → List Char
  | none => []
  | some run => '.' :: run

/-- The text of an exponent, if there is one. -/
def exponentText : Option Int → List Char
  | none => []
  | some exponent => 'e' :: exponentSign exponent :: Number.digits exponent.natAbs

/-- The parts of a decimal's text: what stands before the point, after it, and in
the exponent. -/
structure Spelled (decimal : Decimal) (whole : List Char) (fraction : Option (List Char))
    (exponent : Option Int) : Prop where
  run : IsRun whole ∧ whole ≠ []
  leads : whole.head? ≠ some '0' ∨ whole.length = 1
  point : ∀ run ∈ fraction, IsRun run ∧ run ≠ []
  parts : fraction = none → exponent ≠ none
  value : ∃ digits, readDigits? 10 0 (whole ++ fraction.getD []) = some digits ∧
    Decimal.normal ⟨digits, exponent.getD 0 - (fraction.getD []).length⟩ = decimal

theorem Spelled.read (negative : Bool) {whole : List Char} {fraction : Option (List Char)}
    {exponent : Option Int} (spelled : Spelled decimal whole fraction exponent)
    (ends : EndsNumber rest) :
    readNumber? negative (whole ++ (fractionText fraction ++ (exponentText exponent ++ rest))) =
      some (.decimal negative decimal, rest) := by
  have readExponent : readExponent? (exponentText exponent ++ rest) = some (exponent, rest) := by
    cases exponent with
    | none => exact readExponent?_none ends
    | some exponent => exact readExponent?_written exponent ends.endsRun
  have behind : ∀ c ∈ (exponentText exponent ++ rest).head?, c.isDigit = false ∧ c ≠ '.' := by
    cases exponent with
    | none => exact fun c first => ⟨(ends c first).1, (ends c first).2.1⟩
    | some exponent =>
        rintro c ⟨⟩
        exact ⟨by decide, by decide⟩
  have readFraction : readFraction? (fractionText fraction ++ (exponentText exponent ++ rest)) =
      some (fraction, exponentText exponent ++ rest) := by
    cases fraction with
    | none => exact readFraction?_none fun c first => (behind c first).2
    | some run =>
        obtain ⟨digits, solid⟩ := spelled.point run rfl
        exact readFraction?_point digits solid fun c first => (behind c first).1
  have ended : EndsRun (fractionText fraction ++ (exponentText exponent ++ rest)) := by
    cases fraction with
    | none => exact fun c first => (behind c first).1
    | some run =>
        rintro c ⟨⟩
        decide
  have readWhole := readWhole?_run spelled.run.1 spelled.run.2 spelled.leads ended
  obtain ⟨digits, value, rfl⟩ := spelled.value
  simp only [readNumber?, readWhole, readFraction, readExponent, value, Option.bind_eq_bind,
    Option.bind_some]
  rw [if_neg]
  simp only [Bool.and_eq_true, Option.isNone_iff_eq_none, not_and]
  intro ⟨noPoint, noPower⟩
  exact absurd noPower (spelled.parts noPoint)

theorem readDigits?_zeros_behind (value count : Nat) :
    readDigits? 10 value (List.replicate count '0') = some (value * 10 ^ count) := by
  have zero : Number.digitValue? 10 '0' = some 0 := by decide
  induction count generalizing value with
  | zero => simp [readDigits?]
  | succ count ih =>
      simp only [List.replicate_succ, readDigits?, zero, Option.bind_eq_bind, Option.bind_some, ih]
      simp only [Nat.add_zero, Option.some.injEq]
      ring

section Layout

variable {digits : Nat} {exponent : Int}

/-- Below one, zeros stand between the point and the digits. -/
theorem spelled_below (proper : Decimal.IsProper ⟨digits, exponent⟩)
    (below : exponent + (Number.digits digits).length - 1 < 0) :
    Spelled ⟨digits, exponent⟩ ['0'] (some (List.replicate
      (-(exponent + (Number.digits digits).length - 1) - 1).toNat '0' ++ Number.digits digits))
      none where
  run := ⟨isRun_zeros 1, by simp⟩
  leads := .inr rfl
  point := by
    rintro run ⟨⟩
    exact ⟨(isRun_zeros _).append (isRun_digits digits), by simp [digits_ne_nil]⟩
  parts := by simp
  value := by
    have zero : Number.digitValue? 10 '0' = some 0 := by decide
    refine ⟨digits, ?_, ?_⟩
    · simp [readDigits?, zero, readDigits?_append, readDigits?_zeros_behind, readDigits?_digits]
    · have place : (none : Option Int).getD 0 - ((some (List.replicate
          (-(exponent + (Number.digits digits).length - 1) - 1).toNat '0' ++
            Number.digits digits)).getD []).length = exponent := by
        simp only [Option.getD_none, Option.getD_some, List.length_append, List.length_replicate]
        omega
      rw [place, proper.normal_eq]

/-- A whole number has its zeros and one more behind the point. -/
theorem spelled_whole (proper : Decimal.IsProper ⟨digits, exponent⟩) (whole : 0 ≤ exponent) :
    Spelled ⟨digits, exponent⟩ (Number.digits digits ++ List.replicate exponent.toNat '0')
      (some ['0']) none where
  run := ⟨(isRun_digits digits).append (isRun_zeros _), by simp [digits_ne_nil]⟩
  leads := by
    rcases proper with solid | zero
    · left
      rw [List.head?_append_of_ne_nil _ (digits_ne_nil digits)]
      apply head_digits_ne_zero
      rintro rfl
      exact solid rfl
    · cases zero
      exact .inr rfl
  point := by
    rintro run ⟨⟩
    exact ⟨isRun_zeros 1, by simp⟩
  parts := by simp
  value := by
    refine ⟨digits * 10 ^ (exponent.toNat + 1), ?_, ?_⟩
    · have zeros : Number.digits digits ++ List.replicate exponent.toNat '0' ++ ['0'] =
          Number.digits digits ++ List.replicate (exponent.toNat + 1) '0' := by
        rw [List.append_assoc, List.replicate_succ']
      rw [Option.getD_some, zeros, readDigits?_append, readDigits?_digits, Option.bind_some,
        readDigits?_zeros_behind]
    · have same := proper.normal_zeros (exponent.toNat + 1)
      have place : exponent - (exponent.toNat + 1 : Nat) = -1 := by omega
      rw [place] at same
      exact same

/-- In between, the point stands among the digits. -/
theorem spelled_among (proper : Decimal.IsProper ⟨digits, exponent⟩) (fraction : exponent < 0)
    (above : 0 ≤ exponent + (Number.digits digits).length - 1) :
    Spelled ⟨digits, exponent⟩
      ((Number.digits digits).take (exponent + (Number.digits digits).length - 1 + 1).toNat)
      (some ((Number.digits digits).drop
        (exponent + (Number.digits digits).length - 1 + 1).toNat)) none := by
  have nonzero : digits ≠ 0 := by
    rintro rfl
    rcases proper with solid | zero
    · exact solid rfl
    · cases zero
      contradiction
  obtain ⟨count, places⟩ :
      ∃ count, count = (exponent + (Number.digits digits).length - 1 + 1).toNat := ⟨_, rfl⟩
  rw [← places]
  have cuts : count ≠ 0 := by omega
  have inside : count < (Number.digits digits).length := by omega
  exact {
    run := by
      refine ⟨fun c member => isRun_digits digits c (List.mem_of_mem_take member), ?_⟩
      simp [cuts, digits_ne_nil]
    leads := by
      left
      rw [List.head?_take, if_neg cuts]
      exact head_digits_ne_zero nonzero
    point := by
      rintro run ⟨⟩
      refine ⟨fun c member => isRun_digits digits c (List.mem_of_mem_drop member), ?_⟩
      simpa using inside
    parts := by simp
    value := by
      refine ⟨digits, ?_, ?_⟩
      · rw [Option.getD_some, List.take_append_drop, readDigits?_digits]
      · have place : (none : Option Int).getD 0 -
            ((some ((Number.digits digits).drop count)).getD []).length = exponent := by
          simp only [Option.getD_none, Option.getD_some, List.length_drop]
          omega
        rw [place, proper.normal_eq] }

/-- Elsewhere one digit stands before the point, and an exponent says where it
belongs. -/
theorem spelled_power (proper : Decimal.IsProper ⟨digits, exponent⟩) :
    Spelled ⟨digits, exponent⟩ ((Number.digits digits).take 1)
      (if (Number.digits digits).length = 1 then none else some ((Number.digits digits).drop 1))
      (some (exponent + (Number.digits digits).length - 1)) where
  run := by
    refine ⟨fun c member => isRun_digits digits c (List.mem_of_mem_take member), ?_⟩
    simp [digits_ne_nil]
  leads := by
    have long := List.length_pos_of_ne_nil (digits_ne_nil digits)
    right
    rw [List.length_take]
    omega
  point := by
    intro run member
    split at member
    · contradiction
    · rename_i more
      cases member
      have long := List.length_pos_of_ne_nil (digits_ne_nil digits)
      refine ⟨fun c member => isRun_digits digits c (List.mem_of_mem_drop member), ?_⟩
      rw [ne_eq, List.drop_eq_nil_iff]
      omega
  parts := by simp
  value := by
    refine ⟨digits, ?_, ?_⟩
    · split
      · rename_i single
        rw [Option.getD_none, List.append_nil, ← single, List.take_length, readDigits?_digits]
      · rw [Option.getD_some, List.take_append_drop, readDigits?_digits]
    · have long := List.length_pos_of_ne_nil (digits_ne_nil digits)
      have place : (some (exponent + (Number.digits digits).length - 1)).getD 0 -
          ((if (Number.digits digits).length = 1 then none
            else some ((Number.digits digits).drop 1)).getD []).length = exponent := by
        split
        · rename_i single
          simp only [Option.getD_some, Option.getD_none, single]
          simp
        · simp only [Option.getD_some, List.length_drop]
          omega
      rw [place, proper.normal_eq]

end Layout

theorem readNumber?_decimal (negative : Bool) (proper : decimal.IsProper) (ends : EndsNumber rest) :
    readNumber? negative (decimalLayout.render decimal ++ rest) =
      some (.decimal negative decimal, rest) := by
  obtain ⟨digits, exponent⟩ := decimal
  unfold Number.Layout.render
  dsimp only
  split
  · split
    · rename_i below
      have read := (spelled_below proper below).read negative ends
      simpa [fractionText, exponentText] using read
    · split
      · rename_i whole
        have read := (spelled_whole proper whole).read negative ends
        simpa [fractionText, exponentText] using read
      · rename_i above fraction
        have read := (spelled_among proper (Int.not_le.mp fraction) (Int.not_lt.mp above)).read
          negative ends
        simpa [fractionText, exponentText] using read
  · have read := (spelled_power proper).read negative ends
    split
    · rename_i single
      rw [if_pos single] at read
      simpa [fractionText, exponentText, exponentSign] using read
    · rename_i more
      rw [if_neg more] at read
      simpa [fractionText, exponentText, exponentSign] using read

end PrintConnector.Json
