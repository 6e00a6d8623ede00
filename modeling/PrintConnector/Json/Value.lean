import PrintConnector.Number.Shortest

/-! JSON values.

A number is whole when it is written without point and exponent, and decimal
otherwise; readers tell the two apart.  An object is the list of its members in
the order of writing.  When a key is repeated, the last member counts.
-/

namespace PrintConnector

/-- A number of a JSON text. -/
inductive Json.Number where
  | whole (value : Int)
  /-- A number with a point or an exponent, or a zero with a minus sign. -/
  | decimal (negative : Bool) (value : Number.Decimal)
deriving DecidableEq, Repr

/-- A JSON value. -/
inductive Json where
  | null
  | bool (value : Bool)
  | number (value : Json.Number)
  | string (value : String)
  | array (items : List Json)
  | object (members : List (String × Json))
deriving Repr, Inhabited

namespace Json

/-- A whole number. -/
def int (value : Int) : Json :=
  .number (.whole value)

/-- The value of a key: its last member. -/
def member? (key : String) : List (String × Json) → Option Json
  | [] => none
  | (name, value) :: rest =>
      match member? key rest with
      | some later => some later
      | none => if name = key then some value else none

/-- The member of an object that has one key alone. -/
def soleMember? : List (String × Json) → Option (String × Json)
  | [] => none
  | [member] => some member
  | (name, _) :: rest => (soleMember? rest).filter fun member => member.1 = name

/-- The values of a record's fields.  A record is an object, read by name, or an
array, read by position; an array with more items than fields is none. -/
def record? (fields : List String) : Json → Option (List (Option Json))
  | .object members => some (fields.map (member? · members))
  | .array items =>
      if items.length ≤ fields.length then
        some ((List.range fields.length).map (items[·]?))
      else none
  | _ => none

/-- A field that has to be there. -/
def required {α : Type} (decode : Json → Option α) : Option Json → Option α
  | some value => decode value
  | none => none

/-- A field that may be missing or null. -/
def optional {α : Type} (decode : Json → Option α) : Option Json → Option (Option α)
  | none | some .null => some none
  | some value => (decode value).map some

def asString? : Json → Option String
  | .string value => some value
  | _ => none

def asBool? : Json → Option Bool
  | .bool value => some value
  | _ => none

/-- A whole number between two bounds, both included. -/
def asIntBetween? (low high : Int) : Json → Option Int
  | .number (.whole value) => if low ≤ value && value ≤ high then some value else none
  | _ => none

/-- A whole number below a bound and not below zero. -/
def asNatBelow? (bound : Nat) (value : Json) : Option Nat :=
  (value.asIntBetween? 0 ((bound : Int) - 1)).map Int.toNat

def asArray? : Json → Option (List Json)
  | .array items => some items
  | _ => none

/-- A list whose items are all readable. -/
def asListOf? {α : Type} (decode : Json → Option α) (value : Json) : Option (List α) :=
  value.asArray?.bind (·.mapM decode)

/-- The members whose value is there. -/
def present (members : List (String × Option Json)) : Json :=
  .object (members.filterMap fun member => member.2.map (member.1, ·))

end Json

end PrintConnector
