import PrintConnector.Error
import PrintConnector.Number.Numeral
import PrintConnector.Text.Blank
import PrintConnector.Text.Fold
import PrintConnector.Text.Utf8

/-! Responses of the server.

A response is a head, a status line and headers up to an empty line, and a body
whose end the head tells.  Every reader takes the bytes that have come and were
not read yet and gives what it read and the bytes after it, so what a reader
leaves is where the next response starts.  While the connection has not ended,
more bytes may come, and a reader that needs them stops and waits.
-/

namespace PrintConnector.Http

open PrintConnector.Number (uint16? uint64? hexUInt64?)
open PrintConnector.Text (trim sameFolded occurs)

/-- The status and the headers of a response, in the order they came. -/
structure Head where
  status : Nat
  headers : List (String × String)
deriving DecidableEq, Repr

/-- Why a reader stopped before its end. -/
inductive Stop where
  /-- It waits for more bytes. -/
  | starved
  | failed (error : Error)
deriving DecidableEq, Repr

/-- Passes a failure on. -/
def orFail {α : Type} (result : Except Error α) : Except Stop α :=
  result.mapError .failed

/-- How the end of a body is known. -/
inductive Framing where
  /-- There is no body. -/
  | empty
  | length (bytes : Nat)
  | chunked
  /-- The body runs until the server closes the connection. -/
  | untilClose
deriving DecidableEq, Repr

def lineFeed : UInt8 := 0x0A

/-- A line with its end, or what is left if no line ends, and the bytes after
it. -/
def splitLine (bytes : List UInt8) : List UInt8 × List UInt8 :=
  let line := bytes.takeWhile (· ≠ lineFeed)
  match bytes.dropWhile (· ≠ lineFeed) with
  | [] => (line, [])
  | feed :: rest => (line ++ [feed], rest)

/-- The characters of a line that end it. -/
def isLineEnd (c : Char) : Bool :=
  c = '\r' || c = '\n'

/-- A line without its end. -/
def dropLineEnd (line : List Char) : List Char :=
  (line.reverse.dropWhile isLineEnd).reverse

/-- The connection ended where a response goes on. -/
def closedEarly : Stop :=
  .failed (.io .unexpectedEof "connection closed mid-response")

/-- Reads a line, which has to be UTF-8.  The last one before the connection
ends needs no end, but there has to be one. -/
def readLine (ended : Bool) (bytes : List UInt8) : Except Stop (List Char × List UInt8) :=
  if !ended && !bytes.contains lineFeed then .error .starved
  else if bytes.isEmpty then .error closedEarly
  else
    let (line, rest) := splitLine bytes
    match Text.Utf8.decode? line with
    | some text => .ok (dropLineEnd text, rest)
    | none => .error (.failed (.io .invalidData "stream did not contain valid UTF-8"))

/-- The status of a status line: its second word, after a version of HTTP/1. -/
def readStatus? (line : List Char) : Option Nat :=
  let version := line.takeWhile (· ≠ ' ')
  match line.dropWhile (· ≠ ' ') with
  | _ :: rest =>
      if "HTTP/1.".toList.isPrefixOf version then uint16? (rest.takeWhile (· ≠ ' ')) else none
  | [] => none

/-- The name and the value of a header, divided at the first colon. -/
def readHeader? (line : List Char) : Option (String × String) :=
  match line.dropWhile (· ≠ ':') with
  | _ :: value => some (.ofList (trim (line.takeWhile (· ≠ ':'))), .ofList (trim value))
  | [] => none

/-- The most headers of a response. -/
def maxHeaders : Nat := 128

/-- Reads headers up to an empty line, at most `room` of them. -/
def readHeaders (ended : Bool) :
    Nat → List UInt8 → Except Stop (List (String × String) × List UInt8)
  | room, bytes => do
      let (line, rest) ← readLine ended bytes
      if line.isEmpty then return ([], rest)
      match room with
      | 0 => throw (.failed (.protocol "too many response headers"))
      | room + 1 =>
          match readHeader? line with
          | none => throw (.failed (.protocol s!"malformed header '{String.ofList line}'"))
          | some header =>
              let (headers, rest) ← readHeaders ended room rest
              return (header :: headers, rest)

/-- Reads the head of a response. -/
def readHead (ended : Bool) (bytes : List UInt8) : Except Stop (Head × List UInt8) := do
  let (line, rest) ← readLine ended bytes
  match readStatus? line with
  | none => throw (.failed (.protocol s!"unexpected status line '{String.ofList line}'"))
  | some status =>
      let (headers, rest) ← readHeaders ended maxHeaders rest
      return (⟨status, headers⟩, rest)

namespace Head

/-- The value of the first header with a name, in any case of letters. -/
def header? (head : Head) (name : String) : Option String :=
  (head.headers.find? fun header => sameFolded header.1 name).map (·.2)

/-- Responses that never have a body. -/
def isBodiless (head : Head) : Bool :=
  head.status < 200 || head.status = 204 || head.status = 304

/-- `word`, in lower case, stands somewhere in a text in any case of letters. -/
def mentions (word : String) (text : String) : Bool :=
  occurs word.toList (text.toList.map Char.toLower)

/-- How the end of the body is known.  Chunks win over a length. -/
def framing (head : Head) : Except Error Framing :=
  if head.isBodiless then .ok .empty
  else if ((head.header? "transfer-encoding").map (mentions "chunked")).getD false then
    .ok .chunked
  else match head.header? "content-length" with
    | none => .ok .untilClose
    | some text =>
        match uint64? (trim text.toList) with
        | some bytes => .ok (.length bytes)
        | none => .error (.protocol s!"bad Content-Length '{text}'")

/-- The connection can carry another request after this response. -/
def keepsAlive (head : Head) : Bool :=
  let closes := ((head.header? "connection").map (sameFolded "close")).getD false
  let delimited := match head.framing with
    | .ok .untilClose | .error _ => false
    | .ok _ => true
  !closes && delimited

end Head

/-- A body that was read. -/
structure Body where
  bytes : List UInt8
  /-- How many bytes were counted while they were read. -/
  count : Nat
deriving DecidableEq, Repr

/-- Takes exactly so many bytes. -/
def takeBytes (ended : Bool) (count : Nat) (bytes : List UInt8) :
    Except Stop (List UInt8 × List UInt8) :=
  let taken := bytes.take count
  if taken.length = count then .ok (taken, bytes.drop count)
  else if ended then
    .error (.failed (.io .unexpectedEof s!"body ended after {taken.length} of {count} bytes"))
  else .error .starved

/-- The size of a chunk: what stands before a semicolon, in hexadecimal. -/
def readChunkSize (line : List Char) : Except Error Nat :=
  match hexUInt64? (trim (line.takeWhile (· ≠ ';'))) with
  | some size => .ok size
  | none => .error (.protocol s!"bad chunk size '{String.ofList line}'")

/-- Reads lines up to an empty one, at most so many. -/
def skipTrailers (ended : Bool) : Nat → List UInt8 → Except Stop (List UInt8)
  | 0, _ => .error closedEarly
  | fuel + 1, bytes => do
      let (line, rest) ← readLine ended bytes
      if line.isEmpty then return rest else skipTrailers ended fuel rest

/-- Reads chunks up to one of size zero, at most so many, and the trailers. -/
def readChunks (ended : Bool) : Nat → List UInt8 → Except Stop (Body × List UInt8)
  | 0, _ => .error closedEarly
  | fuel + 1, bytes => do
      let (line, rest) ← readLine ended bytes
      let size ← orFail (readChunkSize line)
      if size = 0 then
        let rest ← skipTrailers ended (rest.length + 1) rest
        return (⟨[], 0⟩, rest)
      else
        let (chunk, rest) ← takeBytes ended size rest
        let (line, rest) ← readLine ended rest
        if line.isEmpty then
          let (body, rest) ← readChunks ended fuel rest
          return (⟨chunk ++ body.bytes, size + body.count⟩, rest)
        else throw (.failed (.protocol "missing CRLF after chunk"))

/-- Reads the body that follows a head.  Every chunk and every line takes a byte
at least, so there are never more of them than bytes. -/
def readBody (ended : Bool) (head : Head) (bytes : List UInt8) :
    Except Stop (Body × List UInt8) := do
  match ← orFail head.framing with
  | .empty => return (⟨[], 0⟩, bytes)
  | .length count =>
      let (body, rest) ← takeBytes ended count bytes
      return (⟨body, count⟩, rest)
  | .untilClose => if ended then return (⟨bytes, bytes.length⟩, []) else throw .starved
  | .chunked => readChunks ended (bytes.length + 1) bytes

end PrintConnector.Http
