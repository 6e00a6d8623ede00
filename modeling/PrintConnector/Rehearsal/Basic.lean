import PrintConnector.Pool.Visit
import PrintConnector.Rehearsal.Server
import PrintConnector.Service.Need

/-! A rehearsal: the service at work against a scripted server.

Tasks take turns.  A task goes on until it has to wait; time stands still as
long as anybody can go on.  A request lets the other tasks go on once before it
is answered.
-/

namespace PrintConnector.Rehearsal

open Service (Need needOf)

/-- What a task does. -/
inductive Work where
  /-- The call of the same number. -/
  | call
  | visit (visit : Visit)
  /-- Waits until a time. -/
  | pause (due : Nat)
  /-- Changes the server. -/
  | script (change : Server → Server)
  /-- Removes the directory of the cache. -/
  | removeDirectory
  | done

/-- Where the server keeps a task waiting. -/
inductive Stall where
  | none
  /-- A connection that is there when it is due, or given up at a limit. -/
  | dialing (due limit : Nat)
  /-- A request that lets the others go on first. -/
  | yielding (stalled : Bool)
  /-- A request whose turn has come again. -/
  | yielded (stalled : Bool)
  | answering (due : Nat)

structure Task where
  work : Work
  /-- When the task is given up. -/
  deadline : Option Nat := none
  stall : Stall := .none

/-- How a task ended. -/
inductive Outcome where
  /-- For a description, tells whether its file has the fingerprint that goes
  with it, if the file is there. -/
  | called (result : Service.Result) (intact : Option Bool)
  | visited (outcome : Except Error (Option (Reply (List UInt8))))
  | passed
  | abandoned

/-- Whose turn it is. -/
inductive Turn where
  | task (who : Nat)
  | reaper (ticket : Nat)
deriving DecidableEq

/-- How long a stall lasts, in milliseconds. -/
def stallTime : Nat := 60000

end Rehearsal

open Rehearsal

structure Rehearsal where
  service : Service
  server : Server
  tasks : Roster Task := []
  /-- Those that can go on, in order. -/
  turns : List Turn := []
  /-- Those that have let the others go on first. -/
  deferred : List Nat := []
  outcomes : Roster Outcome := []
  /-- Tasks are counted as they start. -/
  nextTask : Nat := 0

namespace Rehearsal

open Service (Need needOf)

def clock (rehearsal : Rehearsal) : Nat :=
  rehearsal.service.pool.clock

def pool (rehearsal : Rehearsal) : Pool :=
  rehearsal.service.pool

def withPool (rehearsal : Rehearsal) (pool : Pool) : Rehearsal :=
  { rehearsal with service := { rehearsal.service with pool } }

def withTask (rehearsal : Rehearsal) (who : Nat) (task : Task) : Rehearsal :=
  { rehearsal with tasks := rehearsal.tasks.update who task }

/-- The file of a description has the fingerprint that goes with it. -/
def isIntact? (rehearsal : Rehearsal) : Service.Result → Option Bool
  | .refreshed (.ok cached) | .cached (some cached) =>
      (rehearsal.service.disk.content? cached.file).map fun bytes =>
        Digest.fingerprint bytes = cached.edition.hash
  | _ => none

/-- How a task ended, if it has. -/
def outcome? (rehearsal : Rehearsal) (who : Nat) (task : Task) : Option Outcome :=
  match task.work with
  | .call =>
      match rehearsal.service.phase? who with
      | some (.finished .abandoned) => some .abandoned
      | some (.finished result) => some (.called result (rehearsal.isIntact? result))
      | _ => none
  | .visit visit =>
      match visit.position with
      | .finished outcome => some (.visited outcome)
      | _ => none
  | .pause due => if due ≤ rehearsal.clock then some .passed else none
  | .script _ | .removeDirectory => none
  | .done => some .passed

/-- What a task waits for. -/
def need (rehearsal : Rehearsal) (who : Nat) (task : Task) : Need :=
  match task.work with
  | .call => rehearsal.service.need who
  | .visit visit => needOf (visit.need rehearsal.pool) (visit.query.getD .printers)
  | _ => .over

/-- Tells a task something, each kind of task in its own way. -/
def tell? (rehearsal : Rehearsal) (who : Nat) (task : Task)
    (onCall : Service → Option Service) (onVisit : Visit → Pool → Option (Pool × Visit)) :
    Option Rehearsal :=
  match task.work with
  | .call => do
      let service ← onCall rehearsal.service
      return { rehearsal with service }.withTask who task
  | .visit visit => do
      let (pool, visit) ← onVisit visit rehearsal.pool
      return (rehearsal.withPool pool).withTask who { task with work := .visit visit }
  | _ => none

/-- Tells a task how the opening of its session ended. -/
def tellConnected? (rehearsal : Rehearsal) (who : Nat) (task : Task)
    (result : Except Error Unit) : Option Rehearsal :=
  rehearsal.tell? who { task with stall := .none } (·.connected? who result)
    (·.connected? · result)

/-- The server lets a task in or not. -/
def accept? (rehearsal : Rehearsal) (who : Nat) (task : Task) : Option Rehearsal :=
  let (result, server) := rehearsal.server.accept
  { rehearsal with server }.tellConnected? who task result

/-- A task waits for a connection. -/
def dial? (rehearsal : Rehearsal) (who : Nat) (task : Task) : Option Rehearsal :=
  let limits := rehearsal.pool.limits
  match task.stall with
  | .dialing due limit =>
      if due ≤ rehearsal.clock then rehearsal.accept? who task
      else if limit ≤ rehearsal.clock then
        rehearsal.tellConnected? who task (.error (.timeout (limits.connectTimeout * 1000000)))
      else none
  | _ =>
      let (stalled, server) := rehearsal.server.dial
      let rehearsal := { rehearsal with server }
      if stalled then
        let stall : Stall :=
          .dialing (rehearsal.clock + stallTime) (rehearsal.clock + limits.connectTimeout)
        some (rehearsal.withTask who { task with stall })
      else rehearsal.accept? who task

/-- The server sends a task its answer. -/
def send? (rehearsal : Rehearsal) (who : Nat) (task : Task) (query : Query) :
    Option Rehearsal := do
  let (sent, server) := rehearsal.server.send query
  let download := rehearsal.service.disk.nextDownload
  let told ← { rehearsal with server }.tell? who { task with stall := .none }
    (·.answered? who sent.reply)
    (fun visit pool => (visit.answered? sent.reply).map fun visit => (pool, visit))
  if sent.lost then
    let service ← told.service.step? (.lose download)
    return { told with service }
  else return told

/-- A task waits for an answer. -/
def request? (rehearsal : Rehearsal) (who : Nat) (task : Task) (query : Query) :
    Option Rehearsal :=
  match task.stall with
  | .yielding _ => none
  | .yielded true =>
      some (rehearsal.withTask who { task with stall := .answering (rehearsal.clock + stallTime) })
  | .yielded false => rehearsal.send? who task query
  | .answering due => if due ≤ rehearsal.clock then rehearsal.send? who task query else none
  | _ =>
      let (stalled, server) := rehearsal.server.take
      some ({ rehearsal with server, deferred := rehearsal.deferred ++ [who] }.withTask who
        { task with stall := .yielding stalled })

/-- The next step of a task, if it need not wait. -/
def advance? (rehearsal : Rehearsal) (who : Nat) (task : Task) : Option Rehearsal :=
  match task.work with
  | .script change =>
      some ({ rehearsal with server := change rehearsal.server }.withTask who
        { task with work := .done })
  | .removeDirectory => do
      let service ← rehearsal.service.step? .removeDirectory
      return { rehearsal with service }.withTask who { task with work := .done }
  | .pause _ | .done => none
  | .call | .visit _ =>
      match rehearsal.need who task with
      | .nothing => rehearsal.tell? who task (·.go? who none) (·.go? ·)
      | .connection => rehearsal.dial? who task
      | .reconnection =>
          let (result, server) := rehearsal.server.reconnect
          { rehearsal with server }.tell? who task (·.reconnected? who result)
            (·.reconnected? · result)
      | .answer query => rehearsal.request? who task query
      | .slot | .lock | .job | .over => none

def isExpired (rehearsal : Rehearsal) (task : Task) : Bool :=
  match task.deadline with
  | some deadline => deadline ≤ rehearsal.clock
  | none => false

/-- Notes how a task ended. -/
def conclude (rehearsal : Rehearsal) (who : Nat) (outcome : Outcome) : Rehearsal :=
  { rehearsal with
    tasks := rehearsal.tasks.remove who
    outcomes := rehearsal.outcomes.add who outcome }

/-- Gives a task up.  A call may have something to give back first. -/
def abandon (rehearsal : Rehearsal) (who : Nat) (task : Task) : Rehearsal :=
  let task := { task with deadline := none }
  match task.work with
  | .call =>
      let service := (rehearsal.service.abandon? who).getD rehearsal.service
      { rehearsal with service }.withTask who task
  | .visit visit =>
      (rehearsal.withPool ((visit.abandon? rehearsal.pool).getD rehearsal.pool)).conclude who
        .abandoned
  | _ => rehearsal.conclude who .abandoned

/-- A task can go on, or has ended. -/
def isReady (rehearsal : Rehearsal) (who : Nat) (task : Task) : Bool :=
  (rehearsal.outcome? who task).isSome || (rehearsal.advance? who task).isSome ||
    rehearsal.isExpired task

end Rehearsal

end PrintConnector
