import PrintConnector.Ppd.Statement

/-! Writing statements.

A statement is written on a line of its own.  Its value stands between
quotation marks, or bare if it has no line break.
-/

namespace PrintConnector.Ppd

/-- How the lines of a description end. -/
inductive LineEnd where
  | lf
  | crlf
  | cr
deriving DecidableEq, Repr

def LineEnd.chars : LineEnd → List Char
  | .lf => ['\n']
  | .crlf => ['\r', '\n']
  | .cr => ['\r']

namespace Statement

/-- The line of a statement, without its end; `quoted` puts the value between
quotation marks. -/
def render (quoted : Bool) (statement : Statement) : List Char :=
  let option := if statement.option.isEmpty then [] else ' ' :: statement.option.toList
  let translation :=
    if statement.translation.isEmpty then [] else '/' :: statement.translation.toList
  let value :=
    if quoted then '"' :: (statement.value.toList ++ ['"']) else statement.value.toList
  '*' :: (statement.keyword.toList ++ option ++ translation ++ [':', ' '] ++ value)

/-- A line of a description. -/
inductive Line where
  /-- A statement, with its value in quotation marks or bare. -/
  | statement (quoted : Bool) (content : Statement)
  /-- A comment, `*%` and a text. -/
  | comment (text : List Char)
  /-- A query, `*?` and a text. -/
  | query (text : List Char)
  /-- The marker after a long value. -/
  | endMarker
  /-- A line with nothing but white space. -/
  | blank (white : List Char)

/-- The characters of a line, without its end. -/
def Line.chars : Line → List Char
  | .statement quoted content => content.render quoted
  | .comment text => '*' :: '%' :: text
  | .query text => '*' :: '?' :: text
  | .endMarker => ['*', 'E', 'n', 'd']
  | .blank white => white

/-- The text of a description's lines. -/
def renderLines (lineEnd : LineEnd) (lines : List Line) : String :=
  .ofList (lines.flatMap fun line => line.chars ++ lineEnd.chars)

/-- The statement that a line writes. -/
def Line.content? : Line → Option Statement
  | .statement _ content => some content
  | _ => none

/-- The statements among the lines. -/
def Line.contents (lines : List Line) : List Statement :=
  lines.filterMap content?

end Statement

end PrintConnector.Ppd
