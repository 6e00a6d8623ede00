import PrintConnector.Device.Description
import PrintConnector.Number.Numeral
import PrintConnector.Ppd.Control

namespace PrintConnector.Ppd

open PrintConnector.Device PrintConnector.Number

/-- `600dpi` or `1200x600dpi`: horizontal and vertical, one number standing for
both. -/
def readResolution? (text : List Char) : Option (Int × Int) := do
  let horizontal ← count32? (text.takeWhile Char.isDigit)
  match text.dropWhile Char.isDigit with
  | ['d', 'p', 'i'] => some (horizontal, horizontal)
  | 'x' :: rest =>
      let vertical ← count32? (rest.takeWhile Char.isDigit)
      if rest.dropWhile Char.isDigit = ['d', 'p', 'i'] then some (horizontal, vertical) else none
  | _ => none

/-- The resolutions of a control; options of any other form are left out. -/
def dpi? (control : Control) : Option Dpi :=
  Dpi.ofOptions? <| control.options.filterMap fun option =>
    (readResolution? option.option.toList).map fun (horizontal, vertical) => {
      horizontal
      vertical
      isDefault := option.option = control.default
      vendorId := option.option
      displayName := some (localized option.translation) }

end PrintConnector.Ppd
