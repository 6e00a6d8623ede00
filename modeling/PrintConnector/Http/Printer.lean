import PrintConnector.Http.Response

/-! Writing responses.

A response is written as a head and, where the head calls for one, a body.  A
body in chunks spells the size of each chunk in hexadecimal, and an empty chunk
and the trailers end it.
-/

namespace PrintConnector.Http

open PrintConnector.Number (Spells)

/-- One piece of a body. -/
structure Chunk where
  /-- The size as it is spelled. -/
  size : List Char
  /-- What stands behind the size, a semicolon first. -/
  extension : List Char := []
  data : List UInt8

/-- A body as it is sent. -/
inductive Payload where
  | absent
  | whole (data : List UInt8)
  /-- Chunks, the size and the extension of the empty one, and trailers. -/
  | chunks (pieces : List Chunk) (last extension : List Char) (trailers : List (List Char))
  /-- The end of the connection ends the body. -/
  | untilClose (data : List UInt8)

structure Response where
  /-- The version, behind the first number. -/
  minor : List Char := ['1']
  head : Head
  /-- The words behind the status. -/
  reason : List Char := []
  payload : Payload

/-- A line with its end. -/
def writeLine (line : List Char) : List UInt8 :=
  Text.Utf8.encode (line ++ ['\r', '\n'])

def writeHeader (header : String × String) : List UInt8 :=
  writeLine (header.1.toList ++ ':' :: ' ' :: header.2.toList)

def statusLine (minor : List Char) (status : Nat) (reason : List Char) : List Char :=
  "HTTP/1.".toList ++ minor ++ ' ' :: Number.digits status ++ ' ' :: reason

/-- A text without an end of a line in it. -/
def OnOneLine (text : List Char) : Prop :=
  ∀ c ∈ text, c ≠ '\n' ∧ c ≠ '\r'

instance (text : List Char) : Decidable (OnOneLine text) :=
  List.decidableBAll (fun c => c ≠ '\n' ∧ c ≠ '\r') text

/-- What may stand behind a size on its line. -/
def IsExtension (text : List Char) : Prop :=
  (text = [] ∨ text.head? = some ';') ∧ OnOneLine text

instance (text : List Char) : Decidable (IsExtension text) :=
  inferInstanceAs (Decidable ((text = [] ∨ text.head? = some ';') ∧ OnOneLine text))

/-- One more than the highest length that can be announced. -/
def lengthBound : Nat := 18446744073709551616

namespace Chunk

def write (chunk : Chunk) : List UInt8 :=
  writeLine (chunk.size ++ chunk.extension) ++ (chunk.data ++ writeLine [])

/-- A chunk that is not empty and has its size in front. -/
def IsProper (chunk : Chunk) : Prop :=
  chunk.data ≠ [] ∧ chunk.data.length < lengthBound ∧
    Spells 16 chunk.data.length chunk.size ∧ IsExtension chunk.extension

end Chunk

namespace Head

/-- Responses of this status have no body, whatever the headers say. -/
def HasNoBody (head : Head) : Prop :=
  head.status < 200 ∨ head.status = 204 ∨ head.status = 304

instance (head : Head) : Decidable head.HasNoBody :=
  inferInstanceAs (Decidable (head.status < 200 ∨ head.status = 204 ∨ head.status = 304))

/-- The first Transfer-Encoding mentions chunks, in any case of letters. -/
def AnnouncesChunks (head : Head) : Prop :=
  ∃ value, head.header? "transfer-encoding" = some value ∧
    "chunked".toList <:+: value.toList.map Char.toLower

/-- The first Content-Length is a number. -/
def AnnouncesLength (head : Head) (length : Nat) : Prop :=
  ∃ value, head.header? "content-length" = some value ∧ Spells 10 length value.toList

end Head

namespace Payload

/-- The bytes that a body carries. -/
def data : Payload → List UInt8
  | .absent => []
  | .whole data => data
  | .chunks pieces .. => pieces.flatMap (·.data)
  | .untilClose data => data

def write : Payload → List UInt8
  | .absent => []
  | .whole data => data
  | .chunks pieces last extension trailers =>
      pieces.flatMap Chunk.write ++
        (writeLine (last ++ extension) ++ (trailers.flatMap writeLine ++ writeLine []))
  | .untilClose data => data

/-- The body tells where it ends, with its head. -/
def IsDelimited : Payload → Prop
  | .untilClose _ => False
  | _ => True

/-- The body is the one that a head requires. -/
def Fits (payload : Payload) (head : Head) : Prop :=
  match payload with
  | .absent => head.HasNoBody
  | .whole data =>
      ¬ head.HasNoBody ∧ ¬ head.AnnouncesChunks ∧ head.AnnouncesLength data.length ∧
        data.length < lengthBound
  | .chunks pieces last extension trailers =>
      ¬ head.HasNoBody ∧ head.AnnouncesChunks ∧ (∀ chunk ∈ pieces, chunk.IsProper) ∧
        Spells 16 0 last ∧ IsExtension extension ∧ ∀ line ∈ trailers, line ≠ [] ∧ OnOneLine line
  | .untilClose _ =>
      ¬ head.HasNoBody ∧ ¬ head.AnnouncesChunks ∧ head.header? "content-length" = none

end Payload

/-- A header that reads back as it is: trimmed, on one line, with no colon in
its name. -/
def IsHeader (header : String × String) : Prop :=
  Text.trim header.1.toList = header.1.toList ∧ Text.trim header.2.toList = header.2.toList ∧
    OnOneLine header.1.toList ∧ ':' ∉ header.1.toList ∧ OnOneLine header.2.toList

instance (header : String × String) : Decidable (IsHeader header) :=
  inferInstanceAs (Decidable (Text.trim header.1.toList = header.1.toList ∧
    Text.trim header.2.toList = header.2.toList ∧ OnOneLine header.1.toList ∧
    ':' ∉ header.1.toList ∧ OnOneLine header.2.toList))

namespace Response

/-- The status line, the headers and an empty line. -/
def writeHead (response : Response) : List UInt8 :=
  writeLine (statusLine response.minor response.head.status response.reason) ++
    (response.head.headers.flatMap writeHeader ++ writeLine [])

def write (response : Response) : List UInt8 :=
  response.writeHead ++ response.payload.write

structure IsWellFormed (response : Response) : Prop where
  minor : OnOneLine response.minor ∧ ' ' ∉ response.minor
  status : response.head.status < 65536
  count : response.head.headers.length ≤ maxHeaders
  headers : ∀ header ∈ response.head.headers, IsHeader header
  reason : OnOneLine response.reason
  payload : response.payload.Fits response.head

end Response

end PrintConnector.Http
