import PrintConnector.Text.Blank

/-! Statements of a printer description.

A description is a sequence of records, each starting with a star at the
beginning of a line:

  *Keyword[ Option][/Translation][: Value]

A value in quotation marks may run over several lines.  Comments, queries and
the markers that end a long value are no statements.
-/

namespace PrintConnector.Ppd

open PrintConnector.Text

/-- One statement.  The keyword is never empty; what a statement leaves out is
the empty string. -/
structure Statement where
  keyword : String
  option : String
  translation : String
  value : String
deriving DecidableEq, Repr, Inhabited

namespace Statement

/-- Cuts a text at every line break that a star follows.  The break and the
star belong to neither side. -/
def records : List Char → List (List Char)
  | [] => [[]]
  | '\r' :: '\n' :: '*' :: rest => [] :: records rest
  | '\r' :: '*' :: rest => [] :: records rest
  | '\n' :: '*' :: rest => [] :: records rest
  | c :: rest =>
      match records rest with
      | [] => [[c]]
      | first :: others => (c :: first) :: others

/-- A keyword ends at white space, a colon or a slash. -/
def isKeywordChar (c : Char) : Bool :=
  !isBlank c && c != ':' && c != '/'

/-- An option ends at a colon or a slash; it may hold blanks. -/
def isOptionChar (c : Char) : Bool :=
  c != ':' && c != '/'

/-- The option after a keyword and the rest.  It takes at least one character,
so a single blank right before a slash or a colon fits nothing. -/
def readOption? (text : List Char) : Option (List Char × List Char) :=
  let blanks := text.takeWhile isBlank
  let rest := text.dropWhile isBlank
  if blanks.isEmpty then some ([], rest)
  else match rest with
    | [] => some ([], [])
    | c :: _ =>
        if isOptionChar c then
          some (trim (rest.takeWhile isOptionChar), rest.dropWhile isOptionChar)
        else if blanks.length = 1 then none
        else some ([], rest)

/-- The translation, up to a colon, and the rest. -/
def readTranslation : List Char → List Char × List Char
  | '/' :: rest => (trim (rest.takeWhile (· != ':')), rest.dropWhile (· != ':'))
  | text => ([], text)

/-- A value between quotation marks that nothing but blanks follow. -/
def readQuoted? : List Char → Option (List Char)
  | '"' :: rest =>
      match rest.dropWhile (· != '"') with
      | '"' :: after =>
          if after.all isBlank then some (trim (rest.takeWhile (· != '"'))) else none
      | _ => none
  | _ => none

/-- A value on one line that nothing but blanks follow. -/
def readBare? (text : List Char) : Option (List Char) :=
  if (text.dropWhile (· != '\n')).all isBlank then some (trim (text.takeWhile (· != '\n')))
  else none

/-- The value after a colon, quoted if it can be read so. -/
def readValue? : List Char → Option (List Char)
  | ':' :: rest =>
      let body := trimStart rest
      (readQuoted? body).orElse fun _ => readBare? body
  | [] => some []
  | _ => none

/-- The statement that a record writes. -/
def ofRecord? (record : List Char) : Option Statement := do
  let keyword := record.takeWhile isKeywordChar
  if keyword.isEmpty then none
  let (option, rest) ← readOption? (record.dropWhile isKeywordChar)
  let (translation, rest) := readTranslation rest
  let value ← readValue? rest
  some ⟨.ofList keyword, .ofList option, .ofList translation, .ofList value⟩

/-- A record that is a comment or a query. -/
def isRemark : List Char → Bool
  | c :: _ => c = '%' || c = '?'
  | [] => false

/-- The marker that ends a long value. -/
def isEndMarker (statement : Statement) : Bool :=
  statement.keyword = "End"

/-- The text after a star at its head; without one, the text. -/
def dropStar : List Char → List Char
  | '*' :: rest => rest
  | text => text

/-- The records of a description.  Only the first can still carry its star. -/
def recordsOf (text : List Char) : List (List Char) :=
  match records text with
  | first :: others => dropStar first :: others
  | [] => []

/-- The statements of a description, in its order. -/
def parseAll (text : String) : List Statement :=
  (recordsOf text.toList).filterMap fun record =>
    if isRemark record then none
    else (ofRecord? record).filter fun statement => !statement.isEndMarker

end Statement

end PrintConnector.Ppd
