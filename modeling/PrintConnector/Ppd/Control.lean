import PrintConnector.Ppd.Outline

/-! Controls: what a user can set, with the choices offered.

A control is built from a block.  It always offers something, and its default
is always one of the keywords it offers.
-/

namespace PrintConnector.Ppd

open PrintConnector.Text

/-- How a control is set. -/
inductive ControlKind where
  | pickOne
  | boolean
deriving DecidableEq, Repr

def ControlKind.parse? : String → Option ControlKind
  | "PickOne" => some .pickOne
  | "Boolean" => some .boolean
  | _ => none

/-- One control.  The options keep the order of the block. -/
structure Control where
  keyword : String
  translation : String
  kind : ControlKind
  default : String
  options : List Statement
deriving DecidableEq, Repr

namespace Control

/-- The value of the last statement with a keyword. -/
def lastValue (keyword : String) (statements : List Statement) : String :=
  ((statements.filter (·.keyword = keyword)).getLast?.map Statement.value).getD ""

/-- A statement offers a choice of a control when its keyword starts with the
control's, is not that of the default, and it names an option. -/
def offers (keyword : String) (statement : Statement) : Bool :=
  statement.keyword ≠ "Default" ++ keyword &&
    (after? keyword.toList statement.keyword.toList).isSome && statement.option ≠ ""

/-- The control that a block opens.  A declared default that names no offered
option gives way to the first option. -/
def ofBlock? : Block → Option Control
  | [] => none
  | opening :: contents => do
      let keyword : String := .ofList (opening.option.toList.dropWhile (· = '*'))
      if keyword = "" then none
      let kind ← ControlKind.parse? opening.value
      let translation := if opening.translation = "" then keyword else opening.translation
      let declared := lastValue ("Default" ++ keyword) contents
      let options := contents.filter (offers keyword)
      let first ← options.head?
      let default :=
        if options.any (·.option = declared) then declared else first.option
      some ⟨keyword, translation, kind, default, options⟩

end Control

/-- The controls of a description, in its order.  Where two share a keyword or
a translation, the later one is found. -/
abbrev Controls := List Control

namespace Controls

def ofBlocks (blocks : List Block) : Controls :=
  blocks.filterMap Control.ofBlock?

def find? (controls : Controls) (keyword : String) : Option Control :=
  controls.reverse.find? fun control => control.keyword = keyword

def findTranslated? (controls : Controls) (translation : String) : Option Control :=
  controls.reverse.find? fun control => control.translation = translation

/-- The control of the first keyword that has one. -/
def findFirst? (controls : Controls) (keywords : List String) : Option Control :=
  keywords.findSome? controls.find?

end Controls

end PrintConnector.Ppd
