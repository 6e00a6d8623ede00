import PrintConnector.Json.Value

/-! Reading JSON.

Each reader takes the text that is left and gives what it read and the text
after it.  Values nest, so the reader of values spends one unit of fuel per
value; the length of the text is always enough.
-/

namespace PrintConnector.Json

open PrintConnector.Number (digitValue? readDigits?)

/-- JSON's own white space. -/
def isSpace (c : Char) : Bool :=
  c = ' ' || c = '\t' || c = '\n' || c = '\r'

def skipSpaces (text : List Char) : List Char :=
  text.dropWhile isSpace

/-- The code unit of four hexadecimal digits. -/
def readUnit? : List Char → Option (Nat × List Char)
  | a :: b :: c :: d :: rest => do
      let unit ← readDigits? 16 0 [a, b, c, d]
      some (unit, rest)
  | _ => none

/-- The character after `\u`: one code unit, or a high and a low surrogate. -/
def readEscapedUnit? (text : List Char) : Option (Char × List Char) := do
  let (unit, rest) ← readUnit? text
  if unit < 0xD800 || 0xE000 ≤ unit then some (Char.ofNat unit, rest)
  else if 0xDC00 ≤ unit then none
  else match rest with
    | '\\' :: 'u' :: rest => do
        let (low, rest) ← readUnit? rest
        if 0xDC00 ≤ low && low < 0xE000 then
          some (Char.ofNat (0x10000 + (unit - 0xD800) * 0x400 + (low - 0xDC00)), rest)
        else none
    | _ => none

/-- The character that a letter after a reverse solidus stands for. -/
def unescape? : Char → Option Char
  | '"' => some '"'
  | '\\' => some '\\'
  | '/' => some '/'
  | 'b' => some '\x08'
  | 'f' => some '\x0c'
  | 'n' => some '\n'
  | 'r' => some '\r'
  | 't' => some '\t'
  | _ => none

/-- The rest of a string whose opening mark was read; `done` holds its
characters so far, last one first. -/
def readStringTail? (fuel : Nat) (done : List Char) (text : List Char) :
    Option (String × List Char) :=
  match fuel, text with
  | _, '"' :: rest => some (.ofList done.reverse, rest)
  | fuel + 1, '\\' :: 'u' :: rest => do
      let (c, rest) ← readEscapedUnit? rest
      readStringTail? fuel (c :: done) rest
  | fuel + 1, '\\' :: letter :: rest => do
      let c ← unescape? letter
      readStringTail? fuel (c :: done) rest
  | fuel + 1, c :: rest =>
      if c.toNat < 0x20 || c = '\\' then none else readStringTail? fuel (c :: done) rest
  | _, _ => none

/-- A run of digits and the text after it; the run may not be empty. -/
def readDigitRun? (text : List Char) : Option (List Char × List Char) :=
  let run := text.takeWhile Char.isDigit
  if run.isEmpty then none else some (run, text.dropWhile Char.isDigit)

/-- The whole part of a number: zero alone, or digits that do not start with
it. -/
def readWhole? (text : List Char) : Option (List Char × List Char) := do
  let (run, rest) ← readDigitRun? text
  if run.head? = some '0' && run.length ≠ 1 then none else some (run, rest)

/-- The digits after a point, if there is one. -/
def readFraction? : List Char → Option (Option (List Char) × List Char)
  | '.' :: rest => (readDigitRun? rest).map fun (run, rest) => (some run, rest)
  | text => some (none, text)

/-- The exponent, if there is one. -/
def readExponent? : List Char → Option (Option Int × List Char)
  | c :: rest =>
      if c = 'e' || c = 'E' then
        let (negative, digits) := match rest with
          | '-' :: digits => (true, digits)
          | '+' :: digits => (false, digits)
          | digits => (false, digits)
        do
          let (run, rest) ← readDigitRun? digits
          let value : Int ← (readDigits? 10 0 run).map Int.ofNat
          some (some (if negative then -value else value), rest)
      else some (none, c :: rest)
  | [] => some (none, [])

/-- A number, whose sign was read. -/
def readNumber? (negative : Bool) (text : List Char) : Option (Json.Number × List Char) := do
  let (whole, rest) ← readWhole? text
  let (fraction?, rest) ← readFraction? rest
  let (exponent?, rest) ← readExponent? rest
  let fraction := fraction?.getD []
  let digits ← readDigits? 10 0 (whole ++ fraction)
  if fraction?.isNone && exponent?.isNone && !(negative && digits = 0) then
    some (.whole (if negative then -(digits : Int) else digits), rest)
  else
    let value : Number.Decimal := ⟨digits, exponent?.getD 0 - fraction.length⟩
    some (.decimal negative value.normal, rest)

/-- What comes after one item or member: another one after a comma, or the
closing mark. -/
def readSeparator? (closing : Char) (text : List Char) : Option (Bool × List Char) :=
  match skipSpaces text with
  | c :: rest =>
      if c = ',' then some (true, rest) else if c = closing then some (false, rest) else none
  | [] => none

/-- `word` stands at the head of the text. -/
def readWord? (word : List Char) (value : Json) (text : List Char) : Option (Json × List Char) :=
  if word.isPrefixOf text then some (value, text.drop word.length) else none

mutual

/-- One value. -/
def readValue? : Nat → List Char → Option (Json × List Char)
  | 0, _ => none
  | fuel + 1, text =>
      match skipSpaces text with
      | '\x7b' :: rest =>
          match skipSpaces rest with
          | '\x7d' :: rest => some (.object [], rest)
          | rest => (readMembers? fuel rest).map fun (members, rest) => (.object members, rest)
      | '[' :: rest =>
          match skipSpaces rest with
          | ']' :: rest => some (.array [], rest)
          | rest => (readItems? fuel rest).map fun (items, rest) => (.array items, rest)
      | '"' :: rest =>
          (readStringTail? rest.length [] rest).map fun (value, rest) => (.string value, rest)
      | 't' :: rest => readWord? ['r', 'u', 'e'] (.bool true) rest
      | 'f' :: rest => readWord? ['a', 'l', 's', 'e'] (.bool false) rest
      | 'n' :: rest => readWord? ['u', 'l', 'l'] .null rest
      | '-' :: rest => (readNumber? true rest).map fun (value, rest) => (.number value, rest)
      | rest => (readNumber? false rest).map fun (value, rest) => (.number value, rest)

/-- The items of an array up to its closing mark. -/
def readItems? : Nat → List Char → Option (List Json × List Char)
  | 0, _ => none
  | fuel + 1, text =>
      match readValue? fuel text with
      | none => none
      | some (item, rest) =>
          match readSeparator? ']' rest with
          | none => none
          | some (false, rest) => some ([item], rest)
          | some (true, rest) =>
              (readItems? fuel rest).map fun (items, rest) => (item :: items, rest)

/-- The members of an object up to its closing mark. -/
def readMembers? : Nat → List Char → Option (List (String × Json) × List Char)
  | 0, _ => none
  | fuel + 1, text =>
      match skipSpaces text with
      | '"' :: rest =>
          match readStringTail? rest.length [] rest with
          | none => none
          | some (name, rest) =>
              match skipSpaces rest with
              | ':' :: rest =>
                  match readValue? fuel rest with
                  | none => none
                  | some (value, rest) =>
                      match readSeparator? '\x7d' rest with
                      | none => none
                      | some (false, rest) => some ([(name, value)], rest)
                      | some (true, rest) =>
                          (readMembers? fuel rest).map fun (members, rest) =>
                            ((name, value) :: members, rest)
              | _ => none
      | _ => none

end

/-- The value that a whole text writes. -/
def parse? (text : List Char) : Option Json := do
  let (value, rest) ← readValue? (text.length + 1) text
  if (skipSpaces rest).isEmpty then some value else none

end PrintConnector.Json
