/-! White space, and texts that have none at their ends.

Every reader of this library takes "white space" to be the Unicode property
White_Space.  `trim` removes it at both ends and nowhere else.
-/

namespace PrintConnector.Text

/-- The Unicode property White_Space, twenty-five code points. -/
def isBlank (c : Char) : Bool :=
  let n := c.toNat
  n == 0x20 || (0x9 ≤ n && n ≤ 0xD) || n == 0x85 || n == 0xA0 || n == 0x1680 ||
    (0x2000 ≤ n && n ≤ 0x200A) || n == 0x2028 || n == 0x2029 || n == 0x202F ||
    n == 0x205F || n == 0x3000

/-- The text from its first character that is not blank. -/
def trimStart (text : List Char) : List Char :=
  text.dropWhile isBlank

/-- The text up to its last character that is not blank. -/
def trimEnd (text : List Char) : List Char :=
  (text.reverse.dropWhile isBlank).reverse

/-- The text without the blanks at either end. -/
def trim (text : List Char) : List Char :=
  trimEnd (trimStart text)

/-- `trim` on strings. -/
def trimmed (text : String) : String :=
  .ofList (trim text.toList)

/-- The words of a text: its longest runs without a blank. -/
def words (text : List Char) : List (List Char) :=
  go [] text
where
  /-- `word` holds the run that is open, last character first. -/
  go (word : List Char) : List Char → List (List Char)
    | [] => if word.isEmpty then [] else [word.reverse]
    | c :: rest =>
        if isBlank c then
          if word.isEmpty then go [] rest else word.reverse :: go [] rest
        else go (c :: word) rest

end PrintConnector.Text
