import PrintConnector.Http.Request
import PrintConnector.Http.Response
import PrintConnector.Query
import PrintConnector.Roster

/-! A session with the scheduler.

Descriptions travel over one connection, which is kept only after a response
was read to its end and leaves the connection open.  While an exchange is under
way the connection is the exchange's, so that one which fails or is given up
takes its connection with it.  A description is downloaded into a temporary
file, which stays only if the download is complete.
-/

namespace PrintConnector.Scheduler

open Http (Head Stop)

/-- An open connection. -/
structure Connection where
  /-- The requests that were sent, the oldest first. -/
  sent : List String := []
  /-- The bytes that have come and were not read yet. -/
  unread : List UInt8 := []
  /-- The other side has closed it. -/
  ended : Bool := false
deriving DecidableEq, Repr

/-- What a session is doing. -/
inductive Activity where
  /-- Nothing; a connection may be kept. -/
  | resting (kept : Option Connection)
  /-- Opens a connection, for a request or for later. -/
  | dialing (request : Option String)
  /-- Has sent its request and waits for the head of the response. -/
  | heading (connection : Connection)
  /-- Reads the body into a file. -/
  | loading (connection : Connection) (head : Head) (file : Nat)
  /-- Reads a body that nobody wants. -/
  | draining (connection : Connection) (head : Head)
deriving DecidableEq, Repr

structure Session where
  /-- The name and the port of the server. -/
  server : String
  /-- How long an exchange may take, in nanoseconds. -/
  timeout : Nat
  activity : Activity := .resting none
  /-- The downloads, complete and temporary ones. -/
  files : Roster (List UInt8) := []
  nextFile : Nat := 0
deriving DecidableEq, Repr

/-- How an operation ended. -/
inductive Outcome where
  /-- Documents are told by the number of their file. -/
  | fetched (result : Except Error (PpdReply Nat))
  | connected (result : Except Error Unit)

namespace Session

/-- A new session, which opens its connection first. -/
def start (server : String) (timeout : Nat) : Session :=
  { server, timeout, activity := .dialing none }

/-- The error for a server that cannot be reached. -/
def unreachable (session : Session) (reason : String) : Error :=
  .connect session.server reason

/-- The file that a download goes into. -/
def temporary? (session : Session) : Option Nat :=
  match session.activity with
  | .loading _ _ file => some file
  | _ => none

/-- Gives up what is under way, with its connection and its file. -/
def interrupt (session : Session) : Session :=
  { session with
    activity := .resting none
    files := match session.temporary? with
      | some file => session.files.remove file
      | none => session.files }

/-- What is under way fails. -/
def fail? (session : Session) (error : Error) : Option (Session × Option Outcome) :=
  match session.activity with
  | .resting _ => none
  | .dialing none => some (session.interrupt, some (.connected (.error error)))
  | _ => some (session.interrupt, some (.fetched (.error error)))

/-- A connection is kept where the head of the last response allows it. -/
def rest (session : Session) (connection : Connection) (head : Head) : Session :=
  { session with activity := .resting (if head.keepsAlive then some connection else none) }

/-- Sends a request. -/
def send (session : Session) (connection : Connection) (request : String) : Session :=
  { session with activity := .heading { connection with sent := connection.sent ++ [request] } }

/-- The request for the description of a printer. -/
def request (server printer : String) (marker : Option String) : String :=
  Http.getRequest (Http.ppdPath printer) server marker

/-- Asks for the description of a printer, over the connection that is kept or
a new one. -/
def fetch? (session : Session) (printer : String) (marker : Option String) : Option Session :=
  let request := request session.server printer marker
  match session.activity with
  | .resting (some connection) => some (session.send connection request)
  | .resting none => some { session with activity := .dialing (some request) }
  | _ => none

/-- Drops the connection that is kept and opens a new one. -/
def reconnect? (session : Session) : Option Session :=
  match session.activity with
  | .resting _ => some { session with activity := .dialing none }
  | _ => none

/-- The connection is open. -/
def dialed? (session : Session) : Option (Session × Option Outcome) :=
  match session.activity with
  | .dialing none =>
      some ({ session with activity := .resting (some {}) }, some (.connected (.ok ())))
  | .dialing (some request) => some (session.send {} request, none)
  | _ => none

/-- The head of a response is read: a document is loaded, and the body of any
other response is drained. -/
def headed (session : Session) (connection : Connection) (head : Head) : Session :=
  if head.status = 200 then
    { session with
      activity := .loading connection head session.nextFile
      files := session.files.add session.nextFile []
      nextFile := session.nextFile + 1 }
  else { session with activity := .draining connection head }

/-- The next step of reading, as far as the bytes that have come allow it. -/
def read? (session : Session) : Option (Session × Option Outcome) :=
  match session.activity with
  | .heading connection =>
      match Http.readHead connection.ended connection.unread with
      | .error .starved => none
      | .error (.failed error) => session.fail? error
      | .ok (head, unread) => some (session.headed { connection with unread } head, none)
  | .loading connection head file =>
      match Http.readBody connection.ended head connection.unread with
      | .error .starved => none
      | .error (.failed error) => session.fail? error
      | .ok (body, unread) =>
          let reply := .document file (head.header? "last-modified")
          some ({ session with files := session.files.update file body.bytes }.rest
            { connection with unread } head, some (.fetched (.ok reply)))
  | .draining connection head =>
      match Http.readBody connection.ended head connection.unread with
      | .error .starved => none
      | .error (.failed error) => session.fail? error
      | .ok (_, unread) =>
          if head.status = 304 then
            some (session.rest { connection with unread } head, some (.fetched (.ok .unchanged)))
          else session.fail? (.httpStatus "Get-PPD" head.status)
  | _ => none

/-- Something happens to the open connection. -/
def onConnection? (session : Session) (change : Connection → Connection) : Option Session :=
  match session.activity with
  | .resting (some connection) =>
      some { session with activity := .resting (some (change connection)) }
  | .heading connection => some { session with activity := .heading (change connection) }
  | .loading connection head file =>
      some { session with activity := .loading (change connection) head file }
  | .draining connection head =>
      some { session with activity := .draining (change connection) head }
  | _ => none

/-- Everything that can happen to a session. -/
inductive Event where
  | fetch (printer : String) (marker : Option String)
  | reconnect
  | dialed
  /-- Bytes come over the connection. -/
  | arrive (bytes : List UInt8)
  /-- The other side closes the connection. -/
  | hangUp
  | read
  /-- What is under way fails, on the network or on disk. -/
  | fail (error : Error)
  | expire
  /-- What is under way is given up. -/
  | abandon

def step? (session : Session) : Event → Option (Session × Option Outcome)
  | .fetch printer marker => (session.fetch? printer marker).map (·, none)
  | .reconnect => session.reconnect?.map (·, none)
  | .dialed => session.dialed?
  | .arrive bytes =>
      (session.onConnection? fun connection =>
        if connection.ended then connection
        else { connection with unread := connection.unread ++ bytes }).map (·, none)
  | .hangUp => (session.onConnection? ({ · with ended := true })).map (·, none)
  | .read => session.read?
  | .fail error => session.fail? error
  | .expire => session.fail? (.timeout session.timeout)
  | .abandon =>
      match session.activity with
      | .resting _ => none
      | _ => some (session.interrupt, none)

end Session

end PrintConnector.Scheduler
