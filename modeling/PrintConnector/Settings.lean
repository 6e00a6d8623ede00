import PrintConnector.Error
import PrintConnector.Json.Value
import PrintConnector.Text.Blank

/-! The settings of the connector.

Settings are read from JSON, where every one of them has to be there.  The
server's name and port can then be set from the environment, and the result is
checked before use.
-/

namespace PrintConnector

open PrintConnector.Json (required)
open PrintConnector.Number (uint16?)
open PrintConnector.Text (trim)

/-- How to reach the print server and where to keep what it sends. -/
structure Settings where
  serverHost : String
  serverPort : Nat
  /-- The most sessions borrowed at one time. -/
  maxConnections : Nat
  connectTimeoutSecs : Nat
  /-- A session of this age is connected anew before its next request. -/
  maxConnectionAgeSecs : Nat
  /-- How long a returned session waits for its next borrower. -/
  idleGraceMillis : Nat
  cacheDir : String
deriving DecidableEq, Repr

namespace Settings

/-- The settings that hold where none are given, except for the directory. -/
def standard (cacheDir : String) : Settings :=
  ⟨"localhost", 631, 5, 10, 120, 100, cacheDir⟩

def encode (settings : Settings) : Json :=
  .object [
    ("server_host", .string settings.serverHost),
    ("server_port", .int settings.serverPort),
    ("max_connections", .int settings.maxConnections),
    ("connect_timeout_secs", .int settings.connectTimeoutSecs),
    ("max_connection_age_secs", .int settings.maxConnectionAgeSecs),
    ("idle_grace_millis", .int settings.idleGraceMillis),
    ("ppd_cache_dir", .string settings.cacheDir)]

def decode? (value : Json) : Option Settings := do
  let port := Json.asNatBelow? 65536
  let count := Json.asNatBelow? 18446744073709551616
  match ← value.record?
      ["server_host", "server_port", "max_connections", "connect_timeout_secs",
        "max_connection_age_secs", "idle_grace_millis", "ppd_cache_dir"] with
  | [host, serverPort, connections, timeout, age, grace, dir] =>
      some {
        serverHost := ← required Json.asString? host
        serverPort := ← required port serverPort
        maxConnections := ← required count connections
        connectTimeoutSecs := ← required count timeout
        maxConnectionAgeSecs := ← required count age
        idleGraceMillis := ← required count grace
        cacheDir := ← required Json.asString? dir }
  | _ => none

/-- The text before the last colon and the text after it. -/
def splitLastColon? (text : List Char) : Option (List Char × List Char) :=
  match text.reverse.dropWhile (· ≠ ':') with
  | _ :: front => some (front.reverse, (text.reverse.takeWhile (· ≠ ':')).reverse)
  | [] => none

/-- Sets the server from a name with or without a port.  A path names a local
socket and is passed over, an unreadable port too; a name with more than one
colon is an address without a port. -/
def withServer (settings : Settings) (server : String) : Settings :=
  let server := trim server.toList
  if server.isEmpty || server.head? = some '/' then settings
  else match splitLastColon? server with
    | some (host, port) =>
        if host.contains ':' then { settings with serverHost := .ofList server }
        else
          { settings with
            serverHost := .ofList host
            serverPort := (uint16? port).getD settings.serverPort }
    | none => { settings with serverHost := .ofList server }

/-- Sets the port; one that cannot be read is passed over. -/
def withPort (settings : Settings) (port : String) : Settings :=
  { settings with serverPort := (uint16? (trim port.toList)).getD settings.serverPort }

/-- The values of `CUPS_SERVER` and `IPP_PORT`, where they are set. -/
structure Environment where
  server : Option String
  port : Option String

/-- The server first and then the port, so that the port wins. -/
def withEnvironment (settings : Settings) (environment : Environment) : Settings :=
  let settings := (environment.server.map settings.withServer).getD settings
  (environment.port.map settings.withPort).getD settings

/-- Refuses settings with which no session could ever be borrowed. -/
def validate (settings : Settings) : Except Error Unit :=
  if settings.maxConnections = 0 then
    .error (.config "max_connections must be greater than 0")
  else if settings.serverPort = 0 then .error (.config "server_port must not be 0")
  else if settings.serverHost = "" then .error (.config "server_host must not be empty")
  else .ok ()

end Settings

end PrintConnector
