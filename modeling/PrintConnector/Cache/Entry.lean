import PrintConnector.Cache.Disk
import PrintConnector.Digest.Hasher
import PrintConnector.Ppd.Translation
import PrintConnector.Text.Utf8

namespace PrintConnector.Cache

/-- The translation of a document, with the fingerprint that tells it from
others. -/
structure Edition where
  /-- The call that fetched the document. -/
  number : Nat
  /-- The SHA-256 of the document, in hexadecimal. -/
  hash : String
  translation : Ppd.Translation

/-- What has been copied of a document. -/
structure Copy where
  hasher : Digest.Hasher := {}
  contents : List UInt8 := []

namespace Copy

/-- How many bytes are copied at a time. -/
def pieceSize : Nat := 8192

def add (copy : Copy) (piece : List UInt8) : Copy where
  hasher := copy.hasher.update piece
  contents := copy.contents ++ piece

/-- Documents are nominally ASCII; what is not UTF-8 in them is replaced. -/
def edition (copy : Copy) (number : Nat) : Edition where
  number
  hash := Digest.hex copy.hasher.finish
  translation := .ofText (.ofList (Text.Utf8.decodeLossy copy.contents))

end Copy

/-- What the cloud service is told of a printer. -/
structure Capabilities where
  printer : Device.Printer
  manufacturer : String
  model : String
  /-- The hash of the document that was translated. -/
  hash : String

def Edition.capabilities (edition : Edition) : Capabilities where
  printer := edition.translation.printer
  manufacturer := edition.translation.manufacturer
  model := edition.translation.model
  hash := edition.hash

/-- What the cache gives out for a printer. -/
structure Snapshot where
  file : FileName
  edition : Edition

structure Entry where
  printer : String
  file : FileName
  /-- The marker that the current document came with. -/
  marker : Option String := none
  current : Option Edition := none
  /-- The calls in line for the lock of the entry; the first one holds it. -/
  line : List Nat := []

namespace Entry

def snapshot? (entry : Entry) : Option Snapshot :=
  entry.current.map fun edition => ⟨entry.file, edition⟩

def isHeldBy (entry : Entry) (who : Nat) : Bool :=
  entry.line.head? = some who

end Entry

end PrintConnector.Cache
