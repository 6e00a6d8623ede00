import PrintConnector.Number.Shortest

/-! Lengths in micrometres.

Every length is scaled in single precision, a half is added, and the sum is cut
to a whole number; what 32 bits cannot hold is held at their bounds.
-/

namespace PrintConnector.Ppd

open PrintConnector.Number

/-- A decimal literal, exactly as it is written. -/
instance : OfScientific Decimal where
  ofScientific mantissa negative exponent :=
    ⟨mantissa, if negative then -(exponent : Int) else exponent⟩

/-- A decimal in single precision. -/
def toSingle (value : Decimal) : Single :=
  Single.ofDecimal false value.digits value.exponent

def half : Single := toSingle 0.5

/-- The nearest whole number, a half going up. -/
def roundHalfUp (value : Single) : Int :=
  (value.add half).toInt32

/-- The unit a sheet is measured in. -/
inductive LengthUnit where
  | inches
  | millimetres
deriving DecidableEq, Repr

/-- The micrometres in one unit. -/
def LengthUnit.microns : LengthUnit → Nat
  | .inches => 25400
  | .millimetres => 1000

/-- A length in micrometres. -/
def LengthUnit.toMicrons (unit : LengthUnit) (value : Single) : Int :=
  roundHalfUp (value.mul (Single.ofInt unit.microns))

/-- Points, seventy-two to the inch, in micrometres.  The product is exact and
the quotient is taken in single precision. -/
def pointsToMicrons (points : Int) : Int :=
  roundHalfUp ((Single.ofInt (points * 25400)).div (Single.ofInt 72))

end PrintConnector.Ppd
