import PrintConnector.Query

/-! A print server that answers by a script.

It publishes documents, and it can be told to fail, to stall, to answer that
nothing was modified, and to lose what it sends.  It counts what reaches it.
-/

namespace PrintConnector.Rehearsal

structure Publication where
  bytes : List UInt8
  marker : Option String
deriving DecidableEq, Repr

structure Server where
  printers : List (String × Publication) := []
  /-- Every connection fails with this error. -/
  unreachable : Option Error := none
  /-- The next connections fail with these errors. -/
  connectErrors : List Error := []
  reconnectErrors : List Error := []
  requestErrors : List Error := []
  /-- So many of the next connections take their time. -/
  connectStalls : Nat := 0
  requestStalls : Nat := 0
  /-- So many of the next documents are said to be unchanged. -/
  forcedUnchanged : Nat := 0
  /-- So many of the next documents are lost on the way. -/
  losses : Nat := 0
  connects : Nat := 0
  reconnects : Nat := 0
  requests : Nat := 0
deriving DecidableEq, Repr

namespace Server

def publication? (server : Server) (printer : String) : Option Publication :=
  server.printers.lookup printer

def withdraw (server : Server) (printer : String) : Server :=
  { server with printers := server.printers.filter fun entry => entry.1 ≠ printer }

def publish (server : Server) (printer : String) (publication : Publication) : Server :=
  { server with printers := (server.withdraw printer).printers ++ [(printer, publication)] }

/-- The first of the errors that are due, if any is. -/
def outcomeOf : List Error → Except Error Unit
  | error :: _ => .error error
  | [] => .ok ()

/-- A connection is asked for; tells whether it takes its time. -/
def dial (server : Server) : Bool × Server :=
  (0 < server.connectStalls,
    { server with connects := server.connects + 1, connectStalls := server.connectStalls - 1 })

/-- The outcome of a connection. -/
def accept (server : Server) : Except Error Unit × Server :=
  match server.unreachable with
  | some error => (.error error, server)
  | none =>
      (outcomeOf server.connectErrors,
        { server with connectErrors := server.connectErrors.drop 1 })

def reconnect (server : Server) : Except Error Unit × Server :=
  match server.unreachable with
  | some error => (.error error, { server with reconnects := server.reconnects + 1 })
  | none =>
      (outcomeOf server.reconnectErrors,
        { server with
          reconnects := server.reconnects + 1
          reconnectErrors := server.reconnectErrors.drop 1 })

/-- A request comes in; tells whether its answer takes its time. -/
def take (server : Server) : Bool × Server :=
  (0 < server.requestStalls,
    { server with requests := server.requests + 1, requestStalls := server.requestStalls - 1 })

/-- The names of the printers in order. -/
def names (server : Server) : List String :=
  (server.printers.map (·.1)).mergeSort fun left right => !decide (right < left)

/-- What the server sends, and whether it is lost on the way. -/
structure Sent where
  reply : Except Error (Reply (List UInt8))
  lost : Bool := false

/-- The description of a printer, unless the marker is the current one. -/
def sendPpd (server : Server) (printer : String) (marker : Option String) : Sent × Server :=
  if 0 < server.forcedUnchanged then
    (⟨.ok (.ppd .unchanged), false⟩,
      { server with forcedUnchanged := server.forcedUnchanged - 1 })
  else match server.publication? printer with
    | none => (⟨.error (.httpStatus "Get-PPD" 404), false⟩, server)
    | some publication =>
        if marker.isSome && marker = publication.marker then
          (⟨.ok (.ppd .unchanged), false⟩, server)
        else
          (⟨.ok (.ppd (.document publication.bytes publication.marker)), 0 < server.losses⟩,
            { server with losses := server.losses - 1 })

/-- Sends what was asked for, unless an error is due. -/
def send (server : Server) (query : Query) : Sent × Server :=
  match server.requestErrors with
  | error :: errors => (⟨.error error, false⟩, { server with requestErrors := errors })
  | [] =>
      match query with
      | .ppd printer marker => server.sendPpd printer marker
      | .printers =>
          (⟨.ok (.printers (server.names.map fun name => [("printer-name", name)])), false⟩, server)
      | .attributes printer =>
          if (server.publication? printer).isSome then
            (⟨.ok (.attributes [("printer-name", printer), ("printer-state", "3")]), false⟩, server)
          else
            (⟨.error (.ippStatus "Get-Printer-Attributes" "ClientErrorNotFound"), false⟩, server)

end Server

end PrintConnector.Rehearsal
