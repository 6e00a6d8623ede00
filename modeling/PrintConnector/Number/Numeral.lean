/-! Whole numbers written in digits.

A numeral is a non-empty run of digits with at most one sign in front.  A
number that its field cannot hold is refused, never wrapped or clamped.
-/

namespace PrintConnector.Number

/-- The value of a digit in a base up to sixteen; letters count in either case. -/
def digitValue? (base : Nat) (c : Char) : Option Nat :=
  let value? :=
    if '0' ≤ c && c ≤ '9' then some (c.toNat - '0'.toNat)
    else if 'a' ≤ c && c ≤ 'f' then some (c.toNat - 'a'.toNat + 10)
    else if 'A' ≤ c && c ≤ 'F' then some (c.toNat - 'A'.toNat + 10)
    else none
  value?.filter (· < base)

/-- The value of a run of digits, `total` being the value of those before it. -/
def readDigits? (base total : Nat) : List Char → Option Nat
  | [] => some total
  | c :: rest => do
      let value ← digitValue? base c
      readDigits? base (total * base + value) rest

/-- The value of a non-empty run of digits. -/
def unsigned? (base : Nat) (text : List Char) : Option Nat :=
  if text.isEmpty then none else readDigits? base 0 text

/-- A number below `bound`, with or without a plus sign. -/
def natural? (base bound : Nat) (text : List Char) : Option Nat :=
  let digits := match text with
    | '+' :: rest => rest
    | _ => text
  (unsigned? base digits).filter (· < bound)

/-- A decimal number that 32 bits hold with its sign. -/
def int32? (text : List Char) : Option Int :=
  let value? : Option Int := match text with
    | '-' :: rest => (unsigned? 10 rest).map fun value => -(value : Int)
    | '+' :: rest => (unsigned? 10 rest).map fun value => (value : Int)
    | _ => (unsigned? 10 text).map fun value => (value : Int)
  value?.filter fun value => -2147483648 ≤ value && value ≤ 2147483647

/-- A decimal number in digits alone that 32 bits hold with a sign. -/
def count32? (text : List Char) : Option Int :=
  ((unsigned? 10 text).filter (· ≤ 2147483647)).map Int.ofNat

/-- A decimal number that 16 bits hold. -/
def uint16? (text : List Char) : Option Nat :=
  natural? 10 65536 text

/-- A decimal number that 64 bits hold. -/
def uint64? (text : List Char) : Option Nat :=
  natural? 10 18446744073709551616 text

/-- A hexadecimal number that 64 bits hold. -/
def hexUInt64? (text : List Char) : Option Nat :=
  natural? 16 18446744073709551616 text

/-- The decimal digits of a number, without leading zeros. -/
def digits (value : Nat) : List Char :=
  Nat.toDigits 10 value

/-- A number is spelled in a base, with letters of either case and any zeros in
front. -/
def Spells (base number : Nat) (text : List Char) : Prop :=
  ∃ zeros, text.map Char.toLower = List.replicate zeros '0' ++ Nat.toDigits base number

/-- A run of digits is read from left to right. -/
theorem readDigits?_append (base total : Nat) (front rest : List Char) :
    readDigits? base total (front ++ rest) =
      (readDigits? base total front).bind fun value => readDigits? base value rest := by
  induction front generalizing total with
  | nil => rfl
  | cons c front ih =>
      cases digit : digitValue? base c with
      | none => simp [readDigits?, digit]
      | some value => simp [readDigits?, digit, ih]

end PrintConnector.Number
