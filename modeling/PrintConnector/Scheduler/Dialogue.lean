import PrintConnector.Http.Printer
import PrintConnector.Scheduler.Session

/-! A session and the server at the other end of its connection.

The server answers every request that it gets over the open connection with one
response, in their order and whenever it likes.  Its bytes come in pieces of any
size, and it closes the connection only when all of them have come.
-/

namespace PrintConnector.Scheduler

/-- What the server sends for a request. -/
abbrev Answer : Type :=
  { response : Http.Response // response.IsWellFormed }

namespace Session

/-- The connection that is open. -/
def connection? (session : Session) : Option Connection :=
  match session.activity with
  | .resting kept => kept
  | .dialing _ => none
  | .heading connection => some connection
  | .loading connection _ _ => some connection
  | .draining connection _ => some connection

end Session

structure Dialogue where
  session : Session
  /-- The requests over the open connection that were answered, and how, the
  oldest first. -/
  answered : List (String × Http.Response) := []
  /-- The bytes that were sent in answer and have not come yet. -/
  coming : List UInt8 := []

namespace Dialogue

/-- What moves a dialogue: the session on its own, or the server. -/
inductive Move where
  | fetch (printer : String) (marker : Option String)
  | reconnect
  | dialed
  | read
  | fail (error : Error)
  | expire
  | abandon
  /-- The server answers the next request. -/
  | answer (answer : Answer)
  /-- So many bytes come over the connection. -/
  | deliver (count : Nat)
  /-- The server closes the connection. -/
  | hangUp

/-- A dialogue whose session is new. -/
def start (server : String) (timeout : Nat) : Dialogue where
  session := .start server timeout

/-- The session takes a step of its own. -/
def act? (dialogue : Dialogue) (event : Session.Event) : Option (Dialogue × Option Outcome) :=
  (dialogue.session.step? event).map fun (session, outcome) => ({ dialogue with session }, outcome)

/-- A new connection is open, over which nothing was said. -/
def dialed? (dialogue : Dialogue) : Option (Dialogue × Option Outcome) :=
  (dialogue.session.step? .dialed).map fun (session, outcome) => ({ session }, outcome)

def answer? (dialogue : Dialogue) (response : Http.Response) : Option Dialogue := do
  let connection ← dialogue.session.connection?
  if connection.ended then none
  else
    let request ← connection.sent[dialogue.answered.length]?
    return { dialogue with
      answered := dialogue.answered ++ [(request, response)]
      coming := dialogue.coming ++ response.write }

def deliver? (dialogue : Dialogue) (count : Nat) : Option (Dialogue × Option Outcome) :=
  { dialogue with coming := dialogue.coming.drop count }.act? (.arrive (dialogue.coming.take count))

def hangUp? (dialogue : Dialogue) : Option (Dialogue × Option Outcome) :=
  if dialogue.coming = [] then dialogue.act? .hangUp else none

def step? (dialogue : Dialogue) : Move → Option (Dialogue × Option Outcome)
  | .fetch printer marker => dialogue.act? (.fetch printer marker)
  | .reconnect => dialogue.act? .reconnect
  | .dialed => dialogue.dialed?
  | .read => dialogue.act? .read
  | .fail error => dialogue.act? (.fail error)
  | .expire => dialogue.act? .expire
  | .abandon => dialogue.act? .abandon
  | .answer response => (dialogue.answer? response.val).map (·, none)
  | .deliver count => dialogue.deliver? count
  | .hangUp => dialogue.hangUp?

/-- The dialogue after some moves; none where one is impossible. -/
def run? (dialogue : Dialogue) (moves : List Move) : Option Dialogue :=
  moves.foldlM (fun dialogue move => (dialogue.step? move).map (·.1)) dialogue

/-- The request of a call. -/
def Move.request? (server : String) : Move → Option String
  | .fetch printer marker => some (Session.request server printer marker)
  | _ => none

/-- A call with one more move behind it. -/
def extend (call : Option (String × List Move)) (move : Move) : Option (String × List Move) :=
  call.map fun (request, since) => (request, since ++ [move])

/-- The last call after another move: its request, and the moves behind it. -/
def follow (server : String) (call : Option (String × List Move)) (move : Move) :
    Option (String × List Move) :=
  match move.request? server with
  | some request => some (request, [])
  | none => extend call move

/-- The last call among some moves. -/
def lastCall? (server : String) (moves : List Move) : Option (String × List Move) :=
  moves.foldl (follow server) none

end Dialogue

end PrintConnector.Scheduler
