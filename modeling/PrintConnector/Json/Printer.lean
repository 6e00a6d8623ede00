import PrintConnector.Json.Value

/-! Writing JSON without any space between its parts.

Only what JSON asks to be escaped is escaped: the quotation mark, the reverse
solidus and the control characters below U+0020.
-/

namespace PrintConnector.Json

/-- A hexadecimal digit in lower case. -/
def hexDigit (value : Nat) : Char :=
  Nat.digitChar (value % 16)

/-- One character inside a string. -/
def escape (c : Char) : List Char :=
  if c = '"' then ['\\', '"']
  else if c = '\\' then ['\\', '\\']
  else if c = '\x08' then ['\\', 'b']
  else if c = '\x0c' then ['\\', 'f']
  else if c = '\n' then ['\\', 'n']
  else if c = '\r' then ['\\', 'r']
  else if c = '\t' then ['\\', 't']
  else if c.toNat < 0x20 then
    ['\\', 'u', '0', '0', hexDigit (c.toNat / 16), hexDigit c.toNat]
  else [c]

/-- A string between quotation marks. -/
def renderString (text : List Char) : List Char :=
  '"' :: (text.flatMap escape ++ ['"'])

/-- A decimal is written in place while its leading digit stands no lower than
the fifth place after the point and no higher than the sixteenth before it. -/
def decimalLayout : PrintConnector.Number.Layout := ⟨-5, 16⟩

def renderNumber : Json.Number → List Char
  | .whole value =>
      if value < 0 then '-' :: PrintConnector.Number.digits value.natAbs
      else PrintConnector.Number.digits value.natAbs
  | .decimal negative value =>
      let text := decimalLayout.render value
      if negative then '-' :: text else text

mutual

/-- The text of a value. -/
def render : Json → List Char
  | .null => ['n', 'u', 'l', 'l']
  | .bool true => ['t', 'r', 'u', 'e']
  | .bool false => ['f', 'a', 'l', 's', 'e']
  | .number value => renderNumber value
  | .string value => renderString value.toList
  | .array items => '[' :: (renderItems items ++ [']'])
  | .object members => '\x7b' :: (renderMembers members ++ ['\x7d'])

/-- The items of an array, a comma between two. -/
def renderItems : List Json → List Char
  | [] => []
  | [item] => render item
  | item :: rest => render item ++ ',' :: renderItems rest

/-- The members of an object, a comma between two. -/
def renderMembers : List (String × Json) → List Char
  | [] => []
  | [(name, value)] => renderString name.toList ++ ':' :: render value
  | (name, value) :: rest =>
      renderString name.toList ++ ':' :: (render value ++ ',' :: renderMembers rest)

end

/-- The compact text of a value. -/
def compact (value : Json) : String :=
  .ofList value.render

end PrintConnector.Json
