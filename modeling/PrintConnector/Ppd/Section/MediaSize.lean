import PrintConnector.Device.Description
import PrintConnector.Number.Numeral
import PrintConnector.Ppd.Control
import PrintConnector.Ppd.Section.NamedSizes
import PrintConnector.Text.DecimalDigit

/-! Sheet sizes.

A size is known by its keyword, or it is read from the first `WIDTHxHEIGHT` in
its keyword or else in its translation.  Sizes printed to the edge of the sheet
are left out.
-/

namespace PrintConnector.Ppd

open PrintConnector.Device PrintConnector.Number PrintConnector.Text

/-- A number in a size is a run of digits and points, whether or not it can be
read. -/
def isSizeChar (c : Char) : Bool :=
  c = '.' || isDecimalDigit c

/-- A unit of length and the text after it. -/
def readUnit? (text : List Char) : Option (LengthUnit × List Char) :=
  match after? ['m', 'm'] text with
  | some rest => some (.millimetres, rest)
  | none => (after? ['i', 'n'] text).map fun rest => (.inches, rest)

/-- What a size is written as: both numbers, and the unit after the second. -/
structure WrittenSize where
  width : List Char
  height : List Char
  unit : Option LengthUnit
deriving DecidableEq, Repr

/-- A size at the head of a text.  A unit after the width is passed over. -/
def WrittenSize.atHead? (text : List Char) : Option WrittenSize :=
  let width := text.takeWhile isSizeChar
  let rest := text.dropWhile isSizeChar
  let rest := ((readUnit? rest).map (·.2)).getD rest
  match rest with
  | 'x' :: rest =>
      let height := rest.takeWhile isSizeChar
      let unit := (readUnit? (rest.dropWhile isSizeChar)).map (·.1)
      if width.isEmpty || height.isEmpty then none else some ⟨width, height, unit⟩
  | _ => none

/-- The first size in a text. -/
def WrittenSize.first? : List Char → Option WrittenSize
  | [] => none
  | c :: rest =>
      match atHead? (c :: rest) with
      | some size => some size
      | none => first? rest

/-- A decimal: ASCII digits with at most one point among them and at least one
digit. -/
def readDecimal? (text : List Char) : Option Decimal :=
  let whole := text.takeWhile (· ≠ '.')
  let fraction? := match text.dropWhile (· ≠ '.') with
    | '.' :: fraction => some fraction
    | _ => none
  let fraction := fraction?.getD []
  (unsigned? 10 (whole ++ fraction)).map fun digits => ⟨digits, -(fraction.length : Int)⟩

/-- A size with a name. -/
def namedMedia? (keyword : String) : Option MediaOption :=
  (NamedSize.find? keyword).map fun size => {
    name := size.name
    width := size.unit.toMicrons (toSingle size.width)
    height := size.unit.toMicrons (toSingle size.height)
    isContinuousFeed := false
    isDefault := false
    vendorId := keyword
    displayName := some (localized size.display) }

/-- A size read from a keyword, or from its translation if the keyword writes
none.  Without a unit the numbers are inches. -/
def customMedia? (keyword translation : String) : Option MediaOption := do
  let written ←
    (WrittenSize.first? keyword.toList).orElse fun _ => WrittenSize.first? translation.toList
  let width ← readDecimal? written.width
  let height ← readDecimal? written.height
  let unit := written.unit.getD .inches
  some {
    name := customMediaName
    width := unit.toMicrons (toSingle width)
    height := unit.toMicrons (toSingle height)
    isContinuousFeed := false
    isDefault := false
    vendorId := keyword
    displayName := some (localized translation) }

/-- A size that is printed to the edge of the sheet. -/
def isFullBleed (keyword : String) : Bool :=
  ".FullBleed".toList.isSuffixOf keyword.toList

/-- The size that one option of a control offers. -/
def mediaOption? (default : String) (option : Statement) : Option MediaOption :=
  if isFullBleed option.option then none
  else
    ((namedMedia? option.option).orElse fun _ =>
      customMedia? option.option option.translation).map fun size =>
        { size with isDefault := option.option = default }

/-- The sheet sizes of a control. -/
def mediaSize? (control : Control) : Option MediaSize :=
  MediaSize.ofOptions? (control.options.filterMap (mediaOption? control.default))

end PrintConnector.Ppd
