import PrintConnector.Device.Description
import PrintConnector.Number.Numeral
import PrintConnector.Ppd.Length
import PrintConnector.Text.Blank

namespace PrintConnector.Ppd

open PrintConnector.Device PrintConnector.Number PrintConnector.Text

/-- The unprintable margins in points: left, bottom, right and top, with nothing
before or after them. -/
def readMargins? (text : List Char) : Option (Int × Int × Int × Int) :=
  if trim text ≠ text then none
  else match words text with
    | [left, bottom, right, top] => do
        some (← count32? left, ← count32? bottom, ← count32? right, ← count32? top)
    | _ => none

/-- The margins of a printer; it prints to the edge if all of them are zero. -/
def margins? (text : String) : Option Margins := do
  let (left, bottom, right, top) ← readMargins? text.toList
  let type : MarginsType :=
    if 0 < left || 0 < bottom || 0 < right || 0 < top then .standard else .borderless
  Margins.ofOptions? [{
    type
    top := pointsToMicrons top
    right := pointsToMicrons right
    bottom := pointsToMicrons bottom
    left := pointsToMicrons left
    isDefault := true }]

end PrintConnector.Ppd
