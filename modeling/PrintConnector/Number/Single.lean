/-! Numbers in single precision.

A value is kept as its 32 bits.  Every operation is the exact one on the
values that the bits stand for, rounded once: to the nearest representable
value, of two equally near ones to the one with an even mantissa, and past the
greatest to infinity.
-/

namespace PrintConnector.Number

/-- A binary format: the magnitudes `mantissa * 2 ^ exponent` with a mantissa
below `2 ^ precision` and an exponent between the two bounds. -/
structure BinaryFormat where
  precision : Nat
  minExponent : Int
  maxExponent : Int

/-- The 32-bit format. -/
def BinaryFormat.single : BinaryFormat := ⟨24, -149, 104⟩

/-- The 64-bit format. -/
def BinaryFormat.double : BinaryFormat := ⟨53, -1074, 971⟩

/-- The magnitude `mantissa * 2 ^ exponent`. -/
structure Magnitude where
  mantissa : Nat
  exponent : Int
deriving DecidableEq, Repr

/-- The quotient rounded to the nearest whole number, a half to the even one. -/
def roundDiv (numerator denominator : Nat) : Nat :=
  let quotient := numerator / denominator
  let twice := 2 * (numerator % denominator)
  if twice > denominator || (twice = denominator && quotient % 2 = 1) then quotient + 1
  else quotient

/-- `numerator / denominator` over `2 ^ exponent`, as a fraction again. -/
def scaleDown (numerator denominator : Nat) (exponent : Int) : Nat × Nat :=
  match exponent with
  | .ofNat shift => (numerator, denominator <<< shift)
  | .negSucc shift => (numerator <<< (shift + 1), denominator)

/-- The exponent at which the mantissa of a fraction has full precision, held
at the least exponent of the format. -/
def BinaryFormat.exponentFor (format : BinaryFormat) (numerator denominator : Nat) : Int :=
  let low : Int := (numerator.log2 : Int) - denominator.log2 - format.precision
  let scaled := scaleDown numerator denominator low
  let exponent := if scaled.1 / scaled.2 < Nat.pow 2 format.precision then low else low + 1
  max exponent format.minExponent

/-- The nearest magnitude of the format; none past its greatest. -/
def BinaryFormat.nearest? (format : BinaryFormat) (numerator denominator : Nat) :
    Option Magnitude :=
  if numerator = 0 then some ⟨0, format.minExponent⟩
  else
    let exponent := format.exponentFor numerator denominator
    let scaled := scaleDown numerator denominator exponent
    let mantissa := roundDiv scaled.1 scaled.2
    let rounded : Magnitude :=
      if mantissa < Nat.pow 2 format.precision then ⟨mantissa, exponent⟩
      else ⟨Nat.pow 2 (format.precision - 1), exponent + 1⟩
    if rounded.exponent ≤ format.maxExponent then some rounded else none

/-- The product of two magnitudes, rounded. -/
def BinaryFormat.product? (format : BinaryFormat) (left right : Magnitude) : Option Magnitude :=
  let scaled := scaleDown (left.mantissa * right.mantissa) 1 (-(left.exponent + right.exponent))
  format.nearest? scaled.1 scaled.2

/-- The quotient of two magnitudes, rounded. -/
def BinaryFormat.quotient? (format : BinaryFormat) (left right : Magnitude) : Option Magnitude :=
  let scaled := scaleDown left.mantissa right.mantissa (right.exponent - left.exponent)
  format.nearest? scaled.1 scaled.2

/-- The greatest power of ten in double precision. -/
def maxTenPower : Nat := 308

/-- A power of ten in double precision. -/
def tenPower? (zeros : Nat) : Option Magnitude :=
  BinaryFormat.double.nearest? (Nat.pow 10 zeros) 1

/-- Divides by the greatest power of ten, so many times or until nothing is
left. -/
def divideDecades? : Nat → Magnitude → Option Magnitude
  | 0, double => some double
  | count + 1, double =>
      if double.mantissa = 0 then some double
      else do
        let less ← BinaryFormat.double.quotient? double (← tenPower? maxTenPower)
        divideDecades? count less

/-- The leading digits of a decimal that 64 bits hold; the others only count for
its exponent.  At most `fuel` of them are cut. -/
def leadingDigits : Nat → Nat → Int → Nat × Int
  | 0, mantissa, exponent => (mantissa, exponent)
  | fuel + 1, mantissa, exponent =>
      if mantissa < 18446744073709551616 then (mantissa, exponent)
      else leadingDigits fuel (mantissa / 10) (exponent + 1)

/-- A decimal as it is worked out in double precision: its digits are rounded, and
so is the power of ten, and so is their product or quotient. -/
def doubleOfDecimal? (mantissa : Nat) (exponent : Int) : Option Magnitude := do
  let leading := leadingDigits mantissa.log2 mantissa exponent
  let digits ← BinaryFormat.double.nearest? leading.1 1
  match leading.2 with
  | .ofNat zeros =>
      if digits.mantissa = 0 then some digits
      else if maxTenPower < zeros then none
      else BinaryFormat.double.product? digits (← tenPower? zeros)
  | .negSucc places =>
      let double ← divideDecades? (places / maxTenPower) digits
      BinaryFormat.double.quotient? double (← tenPower? (places % maxTenPower + 1))

/-- A number in single precision. -/
structure Single where
  bits : UInt32
deriving DecidableEq, Repr

/-- What 32 bits stand for. -/
inductive Reading where
  | notANumber
  | infinite (negative : Bool)
  | finite (negative : Bool) (magnitude : Magnitude)
deriving DecidableEq, Repr

namespace Single

/-- The value of a number: its sign bit, its exponent field and its fraction. -/
def reading (x : Single) : Reading :=
  let pattern := x.bits.toNat
  let negative := decide (2147483648 ≤ pattern)
  let field := pattern / 8388608 % 256
  let fraction := pattern % 8388608
  if field = 255 then
    if fraction = 0 then .infinite negative else .notANumber
  else if field = 0 then .finite negative ⟨fraction, -149⟩
  else .finite negative ⟨fraction + 8388608, (field : Int) - 150⟩

/-- The sign bit. -/
def signBits (negative : Bool) : Nat :=
  if negative then 2147483648 else 0

def infinity (negative : Bool) : Single :=
  ⟨UInt32.ofNat (signBits negative + 255 * 8388608)⟩

def notANumber : Single :=
  ⟨UInt32.ofNat (255 * 8388608 + 4194304)⟩

/-- The number with a sign and a magnitude of the format, or infinity for
none. -/
def ofMagnitude (negative : Bool) : Option Magnitude → Single
  | none => infinity negative
  | some ⟨mantissa, exponent⟩ =>
      let field : Nat := if mantissa < 8388608 then 0 else (exponent + 150).toNat
      ⟨UInt32.ofNat (signBits negative + field * 8388608 + mantissa % 8388608)⟩

/-- A fraction rounded to single precision. -/
def ofRatio (negative : Bool) (numerator denominator : Nat) : Single :=
  ofMagnitude negative (BinaryFormat.single.nearest? numerator denominator)

/-- `mantissa * 2 ^ exponent` rounded to single precision. -/
def ofBinary (negative : Bool) (mantissa : Nat) (exponent : Int) : Single :=
  let scaled := scaleDown mantissa 1 (-exponent)
  ofRatio negative scaled.1 scaled.2

/-- A whole number rounded to single precision. -/
def ofInt (value : Int) : Single :=
  ofRatio (decide (value < 0)) value.natAbs 1

/-- `mantissa * 10 ^ exponent` as a fraction. -/
def decimalRatio (mantissa : Nat) (exponent : Int) : Nat × Nat :=
  match exponent with
  | .ofNat zeros => (mantissa * Nat.pow 10 zeros, 1)
  | .negSucc places => (mantissa, Nat.pow 10 (places + 1))

/-- A decimal rounded to single precision in one step. -/
def ofDecimal (negative : Bool) (mantissa : Nat) (exponent : Int) : Single :=
  let ratio := decimalRatio mantissa exponent
  ofRatio negative ratio.1 ratio.2

/-- A decimal worked out in double precision and the result rounded to single. -/
def ofDecimalViaDouble (negative : Bool) (mantissa : Nat) (exponent : Int) : Single :=
  match doubleOfDecimal? mantissa exponent with
  | none => infinity negative
  | some double => ofBinary negative double.mantissa double.exponent

/-- The signed mantissa over a smaller exponent. -/
def alignedTo (exponent : Int) (negative : Bool) (magnitude : Magnitude) : Int :=
  let mantissa : Int := (magnitude.mantissa <<< (magnitude.exponent - exponent).toNat : Nat)
  if negative then -mantissa else mantissa

def add (x y : Single) : Single :=
  match x.reading, y.reading with
  | .notANumber, _ | _, .notANumber => notANumber
  | .infinite a, .infinite b => if a = b then infinity a else notANumber
  | .infinite a, _ => infinity a
  | _, .infinite b => infinity b
  | .finite a left, .finite b right =>
      let exponent := min left.exponent right.exponent
      let sum := alignedTo exponent a left + alignedTo exponent b right
      if sum = 0 then ofRatio (a && b) 0 1
      else ofBinary (decide (sum < 0)) sum.natAbs exponent

def mul (x y : Single) : Single :=
  match x.reading, y.reading with
  | .notANumber, _ | _, .notANumber => notANumber
  | .infinite a, .infinite b => infinity (a != b)
  | .infinite a, .finite b right =>
      if right.mantissa = 0 then notANumber else infinity (a != b)
  | .finite a left, .infinite b =>
      if left.mantissa = 0 then notANumber else infinity (a != b)
  | .finite a left, .finite b right =>
      ofBinary (a != b) (left.mantissa * right.mantissa) (left.exponent + right.exponent)

def div (x y : Single) : Single :=
  match x.reading, y.reading with
  | .notANumber, _ | _, .notANumber => notANumber
  | .infinite _, .infinite _ => notANumber
  | .infinite a, .finite b _ => infinity (a != b)
  | .finite a _, .infinite b => ofRatio (a != b) 0 1
  | .finite a left, .finite b right =>
      if right.mantissa = 0 then
        if left.mantissa = 0 then notANumber else infinity (a != b)
      else
        let scaled := scaleDown left.mantissa right.mantissa (right.exponent - left.exponent)
        ofRatio (a != b) scaled.1 scaled.2

/-- The whole part of a magnitude. -/
def wholePart (magnitude : Magnitude) : Nat :=
  match magnitude.exponent with
  | .ofNat shift => magnitude.mantissa <<< shift
  | .negSucc shift => magnitude.mantissa >>> (shift + 1)

/-- The whole part as a signed 32-bit number: cut toward zero and held at the
bounds; not-a-number gives 0. -/
def toInt32 (x : Single) : Int :=
  match x.reading with
  | .notANumber => 0
  | .infinite negative => if negative then -2147483648 else 2147483647
  | .finite negative magnitude =>
      let whole : Int := wholePart magnitude
      if negative then max (-whole) (-2147483648) else min whole 2147483647

/-- A number that is neither infinite nor not-a-number. -/
def isFinite (x : Single) : Bool :=
  match x.reading with
  | .finite .. => true
  | _ => false

end Single

end PrintConnector.Number
