import PrintConnector.Http.Request
import PrintConnector.Ipp.Value

/-! What comes of the printing protocol's operations.

Each operation opens a connection of its own.  A status that is not a success
is an error, except that a server without printers may say that it found none.
-/

namespace PrintConnector.Ipp

/-- The operations that queries are asked with. -/
inductive Operation where
  | listPrinters
  | describePrinter (printer : String)
deriving DecidableEq, Repr

namespace Operation

def name : Operation → String
  | .listPrinters => "CUPS-Get-Printers"
  | .describePrinter _ => "Get-Printer-Attributes"

def code : Operation → Nat
  | .listPrinters => 0x4002
  | .describePrinter _ => 0x000B

/-- The path that an operation is sent to. -/
def target : Operation → String
  | .listPrinters => "/"
  | .describePrinter printer => Http.printerPath printer

end Operation

/-- The client's errors from 0x0400 on. -/
def clientErrors : List String := [
  "BadRequest", "Forbidden", "NotAuthenticated", "NotAuthorized", "NotPossible", "Timeout",
  "NotFound", "Gone", "RequestEntityTooLong", "RequestValueTooLong",
  "DocumentFormatNotSupported", "AttributesOrValuesNotSupported", "UriSchemeNotSupported",
  "CharsetNotSupported", "ConflictingAttributes", "CompressionNotSupported",
  "CompressionError", "DocumentFormatError", "DocumentAccessError"]

/-- The server's errors from 0x0500 on. -/
def serverErrors : List String := [
  "InternalError", "OperationNotSupported", "ServiceUnavailable", "VersionNotSupported",
  "DeviceError", "TemporaryError", "NotAcceptingJobs", "Busy", "JobCanceled",
  "MultipleDocumentJobsNotSupported"]

/-- The name of a status that is not a success. -/
def statusName (status : Nat) : String :=
  let named (base : Nat) (family : String) (names : List String) : Option String :=
    if base ≤ status then (names[status - base]?).map (family ++ ·) else none
  ((named 0x0400 "ClientError" clientErrors).or (named 0x0500 "ServerError" serverErrors)).getD
    "UnknownStatusCode"

def isSuccess (status : Nat) : Bool :=
  status ≤ 2

/-- The status of a server that found nothing. -/
def notFound : Nat := 0x0406

structure Response where
  status : Nat
  groups : List Group

/-- The error of a server that refuses an operation over HTTP. -/
def refused (operation : Operation) (code : Nat) : Error :=
  .transport s!"{operation.name}: HTTP request error: {code}"

/-- The error of an exchange that breaks off. -/
def brokenOff (operation : Operation) (server : String) : Error :=
  .transport
    s!"{operation.name}: error sending request for url (http://{server}{operation.target})"

/-- What the response to an operation says. -/
def Response.reply {δ : Type} (response : Response) (operation : Operation) :
    Except Error (Reply δ) :=
  match operation with
  | .listPrinters =>
      if isSuccess response.status then
        let printers := response.groups.filter (·.tag = .printer)
        .ok (.printers (printers.map fun group => flatten [group]))
      else if response.status = notFound then .ok (.printers [])
      else .error (.ippStatus operation.name (statusName response.status))
  | .describePrinter _ =>
      if isSuccess response.status then .ok (.attributes (flatten response.groups))
      else .error (.ippStatus operation.name (statusName response.status))

end PrintConnector.Ipp
