import PrintConnector.Device.Description
import PrintConnector.Ppd.Control
import PrintConnector.Text.Blank
import PrintConnector.Text.Fold

/-! Colour modes.

A mode is told to be colour or gray by the head of its keyword.  Colour modes
come first, then gray ones, then the rest.  A mode that is alone in its part is
the standard one; several are variants.
-/

namespace PrintConnector.Ppd

open PrintConnector.Device PrintConnector.Text

/-- The name starts with `cmy`, `rgb` or `color`. -/
def looksColor (name : List Char) : Bool :=
  startsFolded ['c', 'm', 'y'] name || startsFolded ['r', 'g', 'b'] name ||
    startsFolded ['c', 'o', 'l', 'o', 'r'] name

/-- The name starts with `gray`, `black` or `mono`. -/
def looksGray (name : List Char) : Bool :=
  startsFolded ['g', 'r', 'a', 'y'] name || startsFolded ['b', 'l', 'a', 'c', 'k'] name ||
    startsFolded ['m', 'o', 'n', 'o'] name

/-- What follows a leading `on` or `off`, blanks, a dash and blanks. -/
def afterToggle? (name : List Char) : Option (List Char) := do
  let rest ← (afterFolded? ['o', 'n'] name).orElse fun _ => afterFolded? ['o', 'f', 'f'] name
  match trimStart rest with
  | '-' :: rest => some (trimStart rest)
  | rest => some rest

/-- How a mode is shown.  A toggle gives way to the colour it switches, as the
keyword or else the rest of the name tells it. -/
def colorName (keyword translation : String) : String :=
  match afterToggle? translation.toList with
  | none => translation
  | some rest =>
      let label? :=
        if looksGray keyword.toList || looksGray rest then some "Gray"
        else if looksColor keyword.toList || looksColor rest then some "Color"
        else none
      match label? with
      | none => .ofList rest
      | some label => if rest.isEmpty then label else label ++ ", " ++ .ofList rest

/-- The part a mode belongs to. -/
inductive ColorPart where
  | color
  | gray
  | other
deriving DecidableEq, Repr

/-- Gray is tried before colour. -/
def ColorPart.ofKeyword (keyword : String) : ColorPart :=
  if looksGray keyword.toList then .gray
  else if looksColor keyword.toList then .color
  else .other

/-- The type of every mode of a part with so many members. -/
def ColorPart.type : ColorPart → Nat → ColorType
  | .color, count => if count = 1 then .standardColor else .customColor
  | .gray, count => if count = 1 then .standardMonochrome else .customMonochrome
  | .other, _ => .customMonochrome

/-- The modes of one part, in the order of the control. -/
def ColorPart.options (part : ColorPart) (offered : List Statement) : List ColorOption :=
  let members := offered.filter fun option => ColorPart.ofKeyword option.option = part
  members.map fun option => {
    vendorId := option.option
    type := part.type members.length
    isDefault := false
    displayName := some (localized (colorName option.option option.translation)) }

/-- Flags the first mode with a key. -/
def flagFirst (key : String) : List ColorOption → List ColorOption
  | [] => []
  | option :: rest =>
      if option.vendorId = key then { option with isDefault := true } :: rest
      else option :: flagFirst key rest

/-- The colour modes of a control. -/
def color? (control : Control) : Option Color :=
  let options :=
    ColorPart.color.options control.options ++ ColorPart.gray.options control.options ++
      ColorPart.other.options control.options
  Color.ofOptions? (flagFirst control.default options) control.keyword

end PrintConnector.Ppd
