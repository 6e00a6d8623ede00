import PrintConnector.Number.Numeral
import PrintConnector.Number.Single

/-! The shortest decimal that names a number in single precision.

The decimals that round to one number fill an interval around it.  The first
grid of decimals with a point in the interval fixes how many digits are
written, and the point of it nearest to the number fixes which.  A layout then
says where the point stands.
-/

namespace PrintConnector.Number

/-- The decimal `digits * 10 ^ exponent`. -/
structure Decimal where
  digits : Nat
  exponent : Int
deriving DecidableEq, Repr

/-- Moves trailing zeros of the digits into the exponent, at most `fuel` of
them. -/
def Decimal.dropZeros : Nat → Decimal → Decimal
  | 0, decimal => decimal
  | fuel + 1, decimal =>
      if decimal.digits % 10 = 0 then dropZeros fuel ⟨decimal.digits / 10, decimal.exponent + 1⟩
      else decimal

/-- The same decimal without trailing zeros; zero has exponent zero. -/
def Decimal.normal (decimal : Decimal) : Decimal :=
  if decimal.digits = 0 then ⟨0, 0⟩
  else decimal.dropZeros decimal.digits.log2

/-- The decimals that round to a magnitude of the 32-bit format, in quarters of
its last place: the two ends, and whether they belong to it. -/
structure Interval where
  low : Nat
  high : Nat
  closed : Bool

/-- Half a place to either side, but only a quarter below a power of two; the
ends belong to an even mantissa. -/
def Interval.around (magnitude : Magnitude) : Interval :=
  let low :=
    if magnitude.mantissa = 8388608 && -149 < magnitude.exponent then 4 * magnitude.mantissa - 1
    else 4 * magnitude.mantissa - 2
  ⟨low, 4 * magnitude.mantissa + 2, magnitude.mantissa % 2 = 0⟩

/-- `decimal` lies in the interval, whose unit is `2 ^ exponent`. -/
def Interval.contains (interval : Interval) (exponent : Int) (decimal : Decimal) : Bool :=
  let ratio := Single.decimalRatio decimal.digits decimal.exponent
  let scaled := scaleDown ratio.1 ratio.2 exponent
  let low := interval.low * scaled.2
  let high := interval.high * scaled.2
  if interval.closed then low ≤ scaled.1 && scaled.1 ≤ high
  else low < scaled.1 && scaled.1 < high

/-- A fraction equal to the magnitude. -/
def Magnitude.ratio (magnitude : Magnitude) : Nat × Nat :=
  scaleDown magnitude.mantissa 1 (-magnitude.exponent)

/-- `numerator / denominator` in units of `10 ^ exponent`. -/
def decimalScale (ratio : Nat × Nat) (exponent : Int) : Nat × Nat :=
  match exponent with
  | .ofNat zeros => (ratio.1, ratio.2 * Nat.pow 10 zeros)
  | .negSucc places => (ratio.1 * Nat.pow 10 (places + 1), ratio.2)

/-- The exponent of the leading digit of a positive fraction. -/
def leadingExponent (ratio : Nat × Nat) : Int :=
  let guess := ((ratio.1.log2 : Int) - ratio.2.log2) * 30103 / 100000
  let atMost (exponent : Int) : Bool :=
    let scaled := decimalScale ratio exponent
    scaled.2 ≤ scaled.1
  if atMost (guess + 1) then guess + 1
  else if atMost guess then guess
  else guess - 1

/-- The two points of a decimal grid next to a fraction, the nearer one first,
of two equally near ones the even one. -/
def gridPoints (ratio : Nat × Nat) (exponent : Int) : List Decimal :=
  let scaled := decimalScale ratio exponent
  let below := scaled.1 / scaled.2
  let nearest := roundDiv scaled.1 scaled.2
  let other := if nearest = below then below + 1 else below
  [⟨nearest, exponent⟩, ⟨other, exponent⟩]

/-- The shortest decimal for a positive magnitude of the 32-bit format. -/
def Magnitude.shortest (magnitude : Magnitude) : Decimal :=
  let ratio := magnitude.ratio
  let leading := leadingExponent ratio
  let interval := Interval.around magnitude
  let hit? := (List.range 9).findSome? fun (count : Nat) =>
    (gridPoints ratio (leading - count)).find? fun decimal =>
      interval.contains (magnitude.exponent - 2) decimal
  Decimal.normal (hit?.getD ⟨roundDiv ratio.1 ratio.2, 0⟩)

/-- Where a decimal is written with its point in place, and where with an
exponent. -/
structure Layout where
  /-- The least exponent of a leading digit that is written in place. -/
  plainFrom : Int
  /-- The first exponent that is not. -/
  plainBelow : Int

/-- The layout of one decimal: its digits, then the rules above.  A whole
number keeps `.0`, an exponent keeps its sign. -/
def Layout.render (layout : Layout) (decimal : Decimal) : List Char :=
  let digits := Number.digits decimal.digits
  let leading : Int := decimal.exponent + digits.length - 1
  let zeros (count : Int) : List Char := List.replicate count.toNat '0'
  if layout.plainFrom ≤ leading && leading < layout.plainBelow then
    if leading < 0 then ['0', '.'] ++ zeros (-leading - 1) ++ digits
    else if 0 ≤ decimal.exponent then digits ++ zeros decimal.exponent ++ ['.', '0']
    else
      let whole := (leading + 1).toNat
      digits.take whole ++ ['.'] ++ digits.drop whole
  else
    let fraction := if digits.length = 1 then [] else '.' :: digits.drop 1
    let sign := if leading < 0 then '-' else '+'
    digits.take 1 ++ fraction ++ ['e', sign] ++ Number.digits leading.natAbs

end PrintConnector.Number
