import PrintConnector.Number.Numeral

/-! What can go wrong, and how it is said.

An error names its cause.  Some causes mean that the session with the server
can no longer be trusted; `isTransport` tells which.
-/

namespace PrintConnector

/-- The kinds of failure of files and streams. -/
inductive IoKind where
  | notFound
  | permissionDenied
  | connectionRefused
  | connectionReset
  | hostUnreachable
  | networkUnreachable
  | connectionAborted
  | notConnected
  | addrInUse
  | addrNotAvailable
  | networkDown
  | brokenPipe
  | alreadyExists
  | wouldBlock
  | notADirectory
  | isADirectory
  | directoryNotEmpty
  | readOnlyFilesystem
  | staleNetworkFileHandle
  | invalidInput
  | invalidData
  | timedOut
  | writeZero
  | storageFull
  | notSeekable
  | quotaExceeded
  | fileTooLarge
  | resourceBusy
  | executableFileBusy
  | deadlock
  | crossesDevices
  | tooManyLinks
  | invalidFilename
  | argumentListTooLong
  | interrupted
  | unsupported
  | unexpectedEof
  | outOfMemory
  | other
deriving DecidableEq, Repr

/-- Why an operation failed. -/
inductive Error where
  /-- No session with the server could be opened. -/
  | connect (server reason : String)
  /-- The exchange with the server broke off. -/
  | transport (text : String)
  /-- The time allowed, in nanoseconds, ran out. -/
  | timeout (nanoseconds : Nat)
  /-- The server refused an IPP operation. -/
  | ippStatus (operation status : String)
  /-- The server refused an HTTP request. -/
  | httpStatus (operation : String) (code : Nat)
  /-- The server's answer could not be read. -/
  | protocol (text : String)
  /-- The server says that a description is unchanged which was never held. -/
  | ppdNotCached (printer : String)
  | poolClosed
  | io (kind : IoKind) (text : String)
  | serialization (text : String)
  | config (text : String)
deriving DecidableEq, Repr

/-- A decimal fraction of `unit` nanoseconds, without trailing zeros. -/
def fractionDigits (nanoseconds unit : Nat) : List Char :=
  let places := (Number.digits unit).length - 1
  let digits := Number.digits (nanoseconds % unit)
  let padded := List.replicate (places - digits.length) '0' ++ digits
  (padded.reverse.dropWhile (· = '0')).reverse

/-- A count of a unit, with its fraction if it has one. -/
def inUnit (nanoseconds unit : Nat) (name : String) : String :=
  let fraction := fractionDigits nanoseconds unit
  let whole := Number.digits (nanoseconds / unit)
  .ofList (if nanoseconds % unit = 0 then whole else whole ++ '.' :: fraction) ++ name

/-- A duration in the largest unit of which it holds one; nothing at all is
`0ns`. -/
def renderDuration (nanoseconds : Nat) : String :=
  if 1000000000 ≤ nanoseconds then inUnit nanoseconds 1000000000 "s"
  else if 1000000 ≤ nanoseconds then inUnit nanoseconds 1000000 "ms"
  else if 1000 ≤ nanoseconds then inUnit nanoseconds 1000 "µs"
  else inUnit nanoseconds 1 "ns"

namespace Error

/-- The wording of an error. -/
def message : Error → String
  | .connect server reason => s!"failed to connect to print server {server}: {reason}"
  | .transport text => s!"print server transport failure: {text}"
  | .timeout nanoseconds => s!"timed out after {renderDuration nanoseconds}"
  | .ippStatus operation status => s!"{operation} returned IPP status {status}"
  | .httpStatus operation code => s!"{operation} returned HTTP status {code}"
  | .protocol text => s!"malformed print server response: {text}"
  | .ppdNotCached printer =>
      s!"print server reported no change, but no PPD is cached for {printer}"
  | .poolClosed => "connection pool is closed"
  | .io _ text => s!"file I/O error: {text}"
  | .serialization text => s!"serialization error: {text}"
  | .config text => s!"invalid configuration: {text}"

/-- The session that met the error has to be closed. -/
def isTransport : Error → Bool
  | .connect .. | .transport _ | .timeout _ | .protocol _ => true
  | .io kind _ =>
      kind = .timedOut || kind = .connectionRefused || kind = .connectionReset ||
        kind = .connectionAborted || kind = .brokenPipe || kind = .unexpectedEof
  | _ => false

end Error

end PrintConnector
