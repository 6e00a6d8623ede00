import PrintConnector.Number.Numeral
import PrintConnector.Query

namespace PrintConnector.Ipp

inductive Value where
  | integer (value : Int)
  | enumeration (value : Int)
  | boolean (value : Bool)
  | range (low high : Int)
  /-- In dots an inch if `perInch`, else in dots a centimetre. -/
  | resolution (across along : Int) (perInch : Bool)
  | text (value : String)
  /-- A text with the language it is in. -/
  | localized (language value : String)
  | array (values : List Value)
  | collection (members : List (String × Value))
  | noValue

mutual

/-- What is shown for a value. -/
def Value.display : Value → String
  | .integer value | .enumeration value => toString value
  | .boolean value => if value then "true" else "false"
  | .range low high => toString low ++ ".." ++ toString high
  | .resolution across along perInch =>
      toString across ++ "x" ++ toString along ++ if perInch then "in" else "cm"
  | .text value => value
  | .localized language value => language ++ ":" ++ value
  | .array values => "[" ++ ", ".intercalate (displayAll values) ++ "]"
  | .collection members =>
      let shown := (displayMembers members).mergeSort fun left right => !decide (right.1 < left.1)
      "<" ++ ", ".intercalate (shown.map fun member => member.1 ++ "=" ++ member.2) ++ ">"
  | .noValue => ""

def displayAll : List Value → List String
  | [] => []
  | value :: rest => value.display :: displayAll rest

def displayMembers : List (String × Value) → List (String × String)
  | [] => []
  | (name, value) :: rest => (name, value.display) :: displayMembers rest

end

/-- Where an attribute belongs. -/
inductive Tag where
  | operation
  | job
  | printer
  | unsupported
deriving DecidableEq, Repr

/-- The attributes of one thing. -/
structure Group where
  tag : Tag
  attributes : List (String × Value)

/-- Adds an attribute in the place of one of the same name. -/
def record (attributes : Attributes) (name shown : String) : Attributes :=
  attributes.filter (·.1 ≠ name) ++ [(name, shown)]

/-- The attributes of some groups as they are shown.  The last one of a name
counts. -/
def flatten (groups : List Group) : Attributes :=
  groups.foldl (fun attributes group =>
    group.attributes.foldl (fun attributes named =>
      record attributes named.1 named.2.display) attributes) []

end PrintConnector.Ipp
