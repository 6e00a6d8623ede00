import PrintConnector.Error
import PrintConnector.Roster

/-! The files of the cache.

The cache keeps one file a printer in its directory, and writes new contents
into a staging file that then takes the place of the printer's file.  Documents
that were downloaded wait elsewhere until the cache has taken them in.  Every
operation can meet a fault but the removals (`unstage`, `delete` and
`removeDownload`): these are taken to succeed.  A program that fails to remove a
file goes on as if it had, so that nothing but the file itself would be left.
-/

namespace PrintConnector.Cache

open PrintConnector (Error IoKind Roster)

/-- The name of a printer's file: a safe form of the printer's name, and a tag
that no other file has. -/
structure FileName where
  stem : String
  tag : Nat
deriving DecidableEq, Repr

/-- Characters that may stand in a file name. -/
def isSafe (c : Char) : Bool :=
  c.isAlphanum || c = '-' || c = '_'

/-- A printer's name as part of a file name. -/
def stemOf (printer : String) : String :=
  .ofList (printer.toList.map fun c => if isSafe c then c else '_')

/-- The length of the written name, which ends in a dash, six characters for
the tag, and `.ppd`. -/
def FileName.length (name : FileName) : Nat :=
  name.stem.length + 11

/-- The longest name of a file. -/
def longestName : Nat := 255

/-- Why a file could not be used. -/
structure Fault where
  kind : IoKind
  text : String
deriving DecidableEq, Repr

def Fault.error (fault : Fault) : Error :=
  .io fault.kind fault.text

/-- Something that has to be there is not. -/
def Fault.absent : Fault :=
  ⟨.notFound, "No such file or directory (os error 2)"⟩

def Fault.nameTooLong : Fault :=
  ⟨.invalidFilename, "File name too long (os error 36)"⟩

structure Disk where
  /-- The directory of the cache is there. -/
  present : Bool := true
  /-- The printers' files. -/
  files : List (FileName × List UInt8) := []
  /-- The staging files, under the call that each is written for. -/
  staged : Roster (List UInt8) := []
  downloads : Roster (List UInt8) := []
  /-- Downloads are counted as they come. -/
  nextDownload : Nat := 0
deriving DecidableEq, Repr

namespace Disk

/-- Ends an operation that met a fault. -/
def orFault {α : Type} (fault : Option Fault) (result : Except Error α) : Except Error α :=
  match fault with
  | some fault => .error fault.error
  | none => result

def content? (disk : Disk) (name : FileName) : Option (List UInt8) :=
  disk.files.lookup name

/-- Creates the empty file of a printer. -/
def create (disk : Disk) (name : FileName) (fault : Option Fault) : Except Error Disk :=
  orFault fault
    (if !disk.present then .error Fault.absent.error
    else if longestName < name.length then .error Fault.nameTooLong.error
    else .ok { disk with files := disk.files ++ [(name, [])] })

/-- Reads a document that was downloaded. -/
def readDownload (disk : Disk) (download : Nat) (fault : Option Fault) :
    Except Error (List UInt8) :=
  orFault fault
    (match disk.downloads.entry? download with
    | some bytes => .ok bytes
    | none => .error Fault.absent.error)

/-- Creates an empty staging file. -/
def stage (disk : Disk) (who : Nat) (fault : Option Fault) : Except Error Disk :=
  orFault fault
    (if !disk.present then .error Fault.absent.error
    else .ok { disk with staged := disk.staged.add who [] })

/-- Writes to the end of a staging file, which is open and need not be there any
more. -/
def append (disk : Disk) (who : Nat) (piece : List UInt8) (fault : Option Fault) :
    Except Error Disk :=
  orFault fault
    (match disk.staged.entry? who with
    | some bytes => .ok { disk with staged := disk.staged.update who (bytes ++ piece) }
    | none => .ok disk)

def unstage (disk : Disk) (who : Nat) : Disk :=
  { disk with staged := disk.staged.remove who }

def delete (disk : Disk) (name : FileName) : Disk :=
  { disk with files := disk.files.filter fun file => file.1 ≠ name }

/-- Puts a staging file in the place of a printer's file, which need not be
there any more. -/
def replace (disk : Disk) (who : Nat) (name : FileName) (fault : Option Fault) :
    Except Error Disk :=
  orFault fault
    (match disk.staged.entry? who with
    | some bytes =>
        let disk := (disk.unstage who).delete name
        .ok { disk with files := disk.files ++ [(name, bytes)] }
    | none => .error Fault.absent.error)

/-- Takes a document in under the next number. -/
def download (disk : Disk) (bytes : List UInt8) : Disk :=
  { disk with
    downloads := disk.downloads.add disk.nextDownload bytes
    nextDownload := disk.nextDownload + 1 }

def removeDownload (disk : Disk) (download : Nat) : Disk :=
  { disk with downloads := disk.downloads.remove download }

/-- The directory goes away with everything in it. -/
def removeDirectory (disk : Disk) : Disk :=
  { disk with present := false, files := [], staged := [] }

end Disk

end PrintConnector.Cache
