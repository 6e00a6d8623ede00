import Mathlib.Data.Nat.Digits.Defs
import PrintConnector.Ppd.Section.MediaSize
import PrintConnector.Proofs.Ppd.Statement

namespace PrintConnector.Ppd

open PrintConnector.Number PrintConnector.Text

variable {text rest : List Char} {unit : LengthUnit} {size : WrittenSize} {value : Nat} {c : Char}

/-- How a unit is written. -/
def LengthUnit.letters : LengthUnit → List Char
  | .millimetres => ['m', 'm']
  | .inches => ['i', 'n']

namespace WrittenSize

/-- A text starts with a width, `x` and a height.  A unit may be written behind the width
and one behind the height. -/
def IsAtHead (size : WrittenSize) (text : List Char) : Prop :=
  ∃ unit? rest, text = size.width ++
      ((Option.map LengthUnit.letters unit?).getD [] ++ 'x' :: (size.height ++ rest)) ∧
    size.width ≠ [] ∧ size.height ≠ [] ∧
    (∀ c ∈ size.width ++ size.height, isSizeChar c = true) ∧
    (∀ c ∈ rest.head?, isSizeChar c = false) ∧
    ∀ unit, size.unit = some unit ↔ unit.letters <+: rest

/-- A size stands in a text, and none stands further to the front. -/
def IsFirst (size : WrittenSize) (text : List Char) : Prop :=
  ∃ place, size.IsAtHead (text.drop place) ∧
    ∀ earlier < place, ∀ other : WrittenSize, ¬ other.IsAtHead (text.drop earlier)

end WrittenSize

/-- The value of an ASCII digit. -/
def digitOf (c : Char) : Nat :=
  c.toNat - '0'.toNat

/-- ASCII digits, at least one, with a point somewhere among them or without one. -/
def IsDecimal (text : List Char) (value : Decimal) : Prop :=
  ∃ whole fraction, (text = whole ++ '.' :: fraction ∨ text = whole ∧ fraction = []) ∧
    whole ++ fraction ≠ [] ∧ (∀ c ∈ whole ++ fraction, c.isDigit = true) ∧
    value.digits = Nat.ofDigits 10 ((whole ++ fraction).reverse.map digitOf) ∧
    value.exponent = -(fraction.length : Int)

theorem digitValue?_ten : digitValue? 10 c = some value ↔ c.isDigit = true ∧ value = digitOf c := by
  have numeral : ('0' ≤ c && c ≤ '9') = c.isDigit := rfl
  rw [digitValue?, numeral, Option.filter_eq_some_iff, decide_eq_true_eq]
  constructor
  · rintro ⟨found, small⟩
    split at found
    · rename_i digit
      exact ⟨digit, (Option.some.inj found).symm⟩
    -- A letter counts ten at least.
    · split at found
      · cases found
        omega
      · split at found
        · cases found
          omega
        · contradiction
  · rintro ⟨digit, rfl⟩
    rw [if_pos digit]
    refine ⟨rfl, ?_⟩
    obtain ⟨-, upper⟩ : 48 ≤ c.toNat ∧ c.toNat ≤ 57 := by
      simpa [Char.isDigit, UInt32.le_iff_toNat_le] using digit
    change c.toNat - 48 < 10
    omega

theorem readDigits?_ten {total : Nat} : readDigits? 10 total text = some value ↔
    (∀ c ∈ text, c.isDigit = true) ∧
      value = total * 10 ^ text.length + Nat.ofDigits 10 (text.reverse.map digitOf) := by
  induction text generalizing total with
  | nil => simpa [readDigits?] using eq_comm
  | cons c text ih =>
      simp only [readDigits?, Option.bind_eq_bind, Option.bind_eq_some_iff, digitValue?_ten, ih,
        List.forall_mem_cons, List.reverse_cons, List.map_append, Nat.ofDigits_append,
        List.map_cons, List.map_nil, Nat.ofDigits_singleton, List.length_map, List.length_reverse,
        List.length_cons]
      constructor
      · rintro ⟨_, ⟨digit, rfl⟩, digits, rfl⟩
        exact ⟨⟨digit, digits⟩, by ring⟩
      · rintro ⟨⟨digit, digits⟩, rfl⟩
        exact ⟨_, ⟨digit, rfl⟩, digits, by ring⟩

theorem unsigned?_ten : unsigned? 10 text = some value ↔ text ≠ [] ∧
    (∀ c ∈ text, c.isDigit = true) ∧ value = Nat.ofDigits 10 (text.reverse.map digitOf) := by
  rw [unsigned?, Option.ite_none_left_eq_some, readDigits?_ten, List.isEmpty_iff, Nat.zero_mul,
    Nat.zero_add]

theorem readDecimal?_eq_some_iff {number : Decimal} :
    readDecimal? text = some number ↔ IsDecimal text number := by
  obtain ⟨digits, exponent⟩ := number
  constructor
  · intro read
    rw [readDecimal?] at read
    have whole := List.takeWhile_append_dropWhile (p := (· ≠ '.')) (l := text)
    generalize text.takeWhile (· ≠ '.') = front at read whole
    cases back : text.dropWhile (· ≠ '.') with
    | nil =>
        simp only [back, Option.map_eq_some_iff, Option.getD_none, List.append_nil] at read whole
        obtain ⟨_, read, same⟩ := read
        cases same
        obtain ⟨some, inside, value⟩ := unsigned?_ten.mp read
        refine ⟨front, [], .inr ⟨whole.symm, rfl⟩, ?_⟩
        rw [List.append_nil]
        exact ⟨some, inside, value, rfl⟩
    | cons c fraction =>
        have point := List.head?_dropWhile_not (fun c : Char => decide (c ≠ '.')) text
        rw [back] at point
        obtain rfl : c = '.' := by simpa using point
        simp only [back, Option.map_eq_some_iff, Option.getD_some] at read whole
        obtain ⟨_, read, same⟩ := read
        cases same
        obtain ⟨some, inside, value⟩ := unsigned?_ten.mp read
        exact ⟨front, fraction, .inl whole.symm, some, inside, value, rfl⟩
  · rintro ⟨whole, fraction, split, some, inside, rfl, rfl⟩
    have read := unsigned?_ten.mpr ⟨some, inside, rfl⟩
    have plain : ∀ c ∈ whole, (c ≠ '.' : Bool) = true := by
      intro c member
      rw [decide_eq_true_eq]
      rintro rfl
      exact absurd (inside '.' (List.mem_append_left _ member)) (by decide)
    obtain rfl | ⟨rfl, rfl⟩ := split
    · rw [readDecimal?, Statement.takeWhile_stop whole plain (by simp),
        Statement.dropWhile_stop whole plain (by simp)]
      simp [read]
    · rw [List.append_nil] at read
      rw [readDecimal?, List.takeWhile_eq_self_iff.mpr plain, List.dropWhile_eq_nil_iff.mpr plain]
      simp [read]

theorem readUnit?_eq_some_iff : readUnit? text = some (unit, rest) ↔ text = unit.letters ++ rest := by
  rw [readUnit?]
  cases metric : after? ['m', 'm'] text with
  | some after =>
      obtain rfl := after?_eq_some_iff.mp metric
      cases unit <;> simp [LengthUnit.letters, eq_comm]
  | none =>
      have other (back : List Char) : text ≠ 'm' :: 'm' :: back := fun whole =>
        nomatch metric.symm.trans (after?_eq_some_iff.mpr whole)
      cases unit <;> simp [LengthUnit.letters, other, after?_eq_some_iff]

theorem readUnit?_map_fst : (readUnit? text).map Prod.fst = some unit ↔ unit.letters <+: text := by
  rw [Option.map_eq_some_iff]
  constructor
  · rintro ⟨⟨_, rest⟩, read, rfl⟩
    exact ⟨rest, (readUnit?_eq_some_iff.mp read).symm⟩
  · rintro ⟨rest, rfl⟩
    exact ⟨(unit, rest), readUnit?_eq_some_iff.mpr rfl, rfl⟩

/-- A unit is passed over where one is written. -/
theorem exists_unit (text : List Char) : ∃ unit? : Option LengthUnit,
    text = (unit?.map LengthUnit.letters).getD [] ++ ((readUnit? text).map Prod.snd).getD text := by
  cases read : readUnit? text with
  | none => exact ⟨none, rfl⟩
  | some found => exact ⟨some found.1, readUnit?_eq_some_iff.mp read⟩

theorem readUnit?_letters (unit? : Option LengthUnit) (rest : List Char) :
    ((readUnit? ((unit?.map LengthUnit.letters).getD [] ++ 'x' :: rest)).map Prod.snd).getD
      ((unit?.map LengthUnit.letters).getD [] ++ 'x' :: rest) = 'x' :: rest := by
  cases unit? with
  | none => rfl
  | some unit => cases unit <;> rfl

namespace WrittenSize

theorem atHead?_eq_some_iff : atHead? text = some size ↔ size.IsAtHead text := by
  constructor
  · intro found
    have whole := List.takeWhile_append_dropWhile (p := isSizeChar) (l := text)
    obtain ⟨unit?, units⟩ := exists_unit (text.dropWhile isSizeChar)
    rw [atHead?] at found
    generalize ((readUnit? (text.dropWhile isSizeChar)).map Prod.snd).getD _ = back at units found
    simp only at found
    split at found
    · rename_i rest
      rw [Option.ite_none_left_eq_some] at found
      obtain ⟨some, same⟩ := found
      simp only [Bool.or_eq_true, List.isEmpty_iff, not_or] at some
      obtain rfl := Option.some.inj same
      refine ⟨unit?, rest.dropWhile isSizeChar, ?_, some.1, some.2, ?_, ?_, ?_⟩
      · rw [List.takeWhile_append_dropWhile, ← units, whole]
      · exact List.forall_mem_append.mpr ⟨fun _ => List.mem_takeWhile_imp,
          fun _ => List.mem_takeWhile_imp⟩
      · intro c first
        have stop := List.head?_dropWhile_not isSizeChar rest
        rw [Option.mem_def.mp first] at stop
        simpa using stop
      · exact fun unit => readUnit?_map_fst
    · contradiction
  · rintro ⟨unit?, rest, rfl, wide, high, inside, stop, unit⟩
    obtain ⟨width, height⟩ := List.forall_mem_append.mp inside
    have ahead : ∀ c ∈ ((unit?.map LengthUnit.letters).getD [] ++ 'x' :: (size.height ++ rest)).head?,
        isSizeChar c = false := by
      intro c first
      obtain _ | _ | _ := unit? <;> cases first <;> decide
    have same : (readUnit? rest).map Prod.fst = size.unit :=
      Option.ext fun other => readUnit?_map_fst.trans (unit other).symm
    rw [atHead?]
    simp only [Statement.takeWhile_stop _ width ahead, Statement.dropWhile_stop _ width ahead,
      readUnit?_letters, Statement.takeWhile_stop _ height stop,
      Statement.dropWhile_stop _ height stop, same]
    simp [wide, high]

theorem not_isAtHead_nil : ¬ size.IsAtHead [] := by
  intro atHead
  exact nomatch atHead?_eq_some_iff.mpr atHead

theorem isFirst_cons_iff : size.IsFirst (c :: rest) ↔ size.IsAtHead (c :: rest) ∨
    (∀ other : WrittenSize, ¬ other.IsAtHead (c :: rest)) ∧ size.IsFirst rest := by
  constructor
  · rintro ⟨place, atHead, earlier⟩
    cases place with
    | zero => exact .inl atHead
    | succ place =>
        refine .inr ⟨earlier 0 (Nat.zero_lt_succ _), place, atHead, fun before less => ?_⟩
        exact earlier (before + 1) (Nat.succ_lt_succ less)
  · rintro (atHead | ⟨none, place, atHead, earlier⟩)
    · exact ⟨0, atHead, nofun⟩
    · refine ⟨place + 1, atHead, fun before less => ?_⟩
      cases before with
      | zero => exact none
      | succ before => exact earlier before (Nat.lt_of_succ_lt_succ less)

theorem first?_eq_some_iff : first? text = some size ↔ size.IsFirst text := by
  induction text with
  | nil =>
      refine iff_of_false nofun ?_
      rintro ⟨place, atHead, -⟩
      rw [List.drop_nil] at atHead
      exact not_isAtHead_nil atHead
  | cons c rest ih =>
      rw [isFirst_cons_iff, first?, ← atHead?_eq_some_iff, ← ih]
      split
      · rename_i found
        simp [found, ← atHead?_eq_some_iff]
      · rename_i missing
        simp [missing, ← atHead?_eq_some_iff]

end WrittenSize

end PrintConnector.Ppd
