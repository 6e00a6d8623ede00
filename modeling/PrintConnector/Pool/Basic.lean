import PrintConnector.Roster
import PrintConnector.Settings

/-! The pool of sessions: who has come how far in borrowing one.

There are as many slots as sessions may be borrowed at one time.  A slot that
comes free goes to whoever has waited longest.  A returned session is parked,
and the newest parked one is borrowed first; a reaper closes the ones that
nobody wants.
-/

namespace PrintConnector

/-- One open session with the server. -/
structure Session where
  /-- Sessions are counted as they are opened. -/
  serial : Nat
  /-- What the clock of ages showed when it was last connected. -/
  connectedAt : Nat
deriving DecidableEq, Repr

namespace Pool

/-- How far a borrower has come, from waiting for a slot to leaving. -/
inductive Stage where
  | waiting
  /-- A slot was handed over; the borrower has not gone on yet. -/
  | called
  /-- Holds a slot and has not looked for a parked session yet. -/
  | admitted
  /-- Holds a slot and opens a session. -/
  | connecting
  /-- Holds a slot and a session, which is closed on return if it is broken. -/
  | borrowing (session : Session) (broken : Bool)
  /-- Has closed its session and holds the slot still. -/
  | emptied
  /-- Has parked its session and holds the slot still. -/
  | parked (ticket : Nat)
  /-- Has freed the slot; the reaper of the session is not started yet. -/
  | leaving (ticket : Nat)
deriving DecidableEq, Repr

namespace Stage

def holdsSlot : Stage → Bool
  | .waiting | .leaving _ => false
  | _ => true

def session? : Stage → Option Session
  | .borrowing session _ => some session
  | _ => none

end Stage

/-- What a pool is set up with; times are in milliseconds. -/
structure Limits where
  slots : Nat
  connectTimeout : Nat
  /-- A session of this age is connected anew before its next request. -/
  maxAge : Nat
  /-- How long a session stays parked if nobody borrows it. -/
  grace : Nat
deriving DecidableEq, Repr

def Limits.ofSettings (settings : Settings) : Limits where
  slots := settings.maxConnections
  connectTimeout := settings.connectTimeoutSecs * 1000
  maxAge := settings.maxConnectionAgeSecs * 1000
  grace := settings.idleGraceMillis

end Pool

/-- The state of a pool. -/
structure Pool where
  limits : Pool.Limits
  /-- Slots that nobody holds. -/
  free : Nat := limits.slots
  /-- Borrowers are still let in. -/
  gateOpen : Bool := true
  /-- The borrowers in the order in which they came. -/
  borrowers : Roster Pool.Stage := []
  /-- The parked sessions under their tickets, the newest first. -/
  parked : Roster Session := []
  /-- No session is parked any more. -/
  isSealed : Bool := false
  nextTicket : Nat := 0
  /-- For each started reaper its ticket and the time when it is due. -/
  reapers : Roster Nat := []
  /-- How many sessions were opened. -/
  opened : Nat := 0
  /-- The serials of the closed sessions. -/
  closed : List Nat := []
  /-- The time in milliseconds, which reapers go by. -/
  clock : Nat := 0
  /-- The reading that the ages of sessions are taken from. -/
  ageClock : Nat := 0
deriving DecidableEq, Repr

namespace Pool

/-- A pool with all slots free. -/
def start (limits : Limits) : Pool :=
  { limits }

def stage? (pool : Pool) (who : Nat) : Option Stage :=
  pool.borrowers.entry? who

/-- How many sessions are open. -/
def live (pool : Pool) : Nat :=
  pool.opened - pool.closed.length

/-- How many sessions are parked. -/
def idle (pool : Pool) : Nat :=
  pool.parked.length

/-- The session has to be connected anew before its next request. -/
def isStale (pool : Pool) (session : Session) : Bool :=
  pool.limits.maxAge ≤ pool.ageClock - session.connectedAt

/-- The borrower that has waited longest. -/
def firstWaiting? (pool : Pool) : Option Nat :=
  (pool.borrowers.find? fun borrower => borrower.2 = .waiting).map (·.1)

def moveTo (pool : Pool) (who : Nat) (stage : Stage) : Pool :=
  { pool with borrowers := pool.borrowers.update who stage }

def dismiss (pool : Pool) (who : Nat) : Pool :=
  { pool with borrowers := pool.borrowers.remove who }

/-- Hands a slot to whoever has waited longest.  Behind a shut gate nobody is
in line for one. -/
def handSlot (pool : Pool) : Pool :=
  match if pool.gateOpen then pool.firstWaiting? else none with
  | some who => pool.moveTo who .called
  | none => { pool with free := pool.free + 1 }

def close (pool : Pool) (session : Session) : Pool :=
  { pool with closed := pool.closed ++ [session.serial] }

/-- Closes the session that is parked under a ticket, if it still is. -/
def closeParked (pool : Pool) (ticket : Nat) : Pool :=
  match pool.parked.entry? ticket with
  | some session => { pool with parked := pool.parked.remove ticket }.close session
  | none => pool

end Pool

end PrintConnector
