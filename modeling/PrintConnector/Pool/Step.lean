import PrintConnector.Pool.Basic

/-! What can happen to a pool.

Every step is one that no other can come between; a step that cannot be taken
gives nothing.  A borrower that is let go without a session is no longer among
the borrowers afterwards.
-/

namespace PrintConnector.Pool

/-- Takes a free slot or gets in line.  Behind a shut gate the borrower is let
go at once. -/
def arrive? (pool : Pool) (who : Nat) : Option Pool :=
  match pool.stage? who with
  | some _ => none
  | none =>
      if !pool.gateOpen then some pool
      else if 0 < pool.free then
        some { pool with free := pool.free - 1, borrowers := pool.borrowers.add who .admitted }
      else some { pool with borrowers := pool.borrowers.add who .waiting }

/-- Goes on with the slot that was handed over.  If the gate was shut
meanwhile, the slot goes back and the borrower is let go. -/
def proceed? (pool : Pool) (who : Nat) : Option Pool :=
  match pool.stage? who with
  | some .waiting => if pool.gateOpen then none else some (pool.dismiss who)
  | some .called =>
      if pool.gateOpen then some (pool.moveTo who .admitted)
      else some (pool.dismiss who).handSlot
  | _ => none

/-- Takes the newest parked session, or starts to open one. -/
def look? (pool : Pool) (who : Nat) : Option Pool :=
  match pool.stage? who, pool.parked with
  | some .admitted, (_, session) :: parked =>
      some ({ pool with parked }.moveTo who (.borrowing session false))
  | some .admitted, [] => some (pool.moveTo who .connecting)
  | _, _ => none

/-- Borrows the session that was opened. -/
def connected? (pool : Pool) (who : Nat) : Option Pool :=
  match pool.stage? who with
  | some .connecting =>
      some ({ pool with opened := pool.opened + 1 }.moveTo who
        (.borrowing ⟨pool.opened, pool.ageClock⟩ false))
  | _ => none

/-- Gives up before a session is in hand. -/
def withdraw? (pool : Pool) (who : Nat) : Option Pool :=
  match pool.stage? who with
  | some .waiting => some (pool.dismiss who)
  | some .called | some .admitted | some .connecting => some (pool.dismiss who).handSlot
  | _ => none

/-- Says whether the borrowed session is to be closed on return. -/
def judge? (pool : Pool) (who : Nat) (broken : Bool) : Option Pool :=
  match pool.stage? who with
  | some (.borrowing session _) => some (pool.moveTo who (.borrowing session broken))
  | _ => none

/-- The borrowed session was connected anew. -/
def renew? (pool : Pool) (who : Nat) : Option Pool :=
  match pool.stage? who with
  | some (.borrowing session broken) =>
      some (pool.moveTo who (.borrowing { session with connectedAt := pool.ageClock } broken))
  | _ => none

/-- Parks the borrowed session.  A broken one is closed, and after sealing
every one. -/
def giveBack? (pool : Pool) (who : Nat) : Option Pool :=
  match pool.stage? who with
  | some (.borrowing session broken) =>
      if broken || pool.isSealed then some ((pool.close session).moveTo who .emptied)
      else
        let ticket := pool.nextTicket
        some ({ pool with
          parked := (ticket, session) :: pool.parked
          nextTicket := ticket + 1 }.moveTo who (.parked ticket))
  | _ => none

/-- Lets go of the slot, after the session. -/
def freeSlot? (pool : Pool) (who : Nat) : Option Pool :=
  match pool.stage? who with
  | some .emptied => some (pool.dismiss who).handSlot
  | some (.parked ticket) => some (pool.moveTo who (.leaving ticket)).handSlot
  | _ => none

/-- Starts the reaper of the session that was parked. -/
def startReaper? (pool : Pool) (who : Nat) : Option Pool :=
  match pool.stage? who with
  | some (.leaving ticket) =>
      some { pool.dismiss who with
        reapers := pool.reapers.add ticket (pool.clock + pool.limits.grace) }
  | _ => none

/-- Where no reaper can be started, closes the session that was parked unless
somebody has borrowed it. -/
def takeBack? (pool : Pool) (who : Nat) : Option Pool :=
  match pool.stage? who with
  | some (.leaving ticket) => some ((pool.dismiss who).closeParked ticket)
  | _ => none

/-- A reaper that is due closes its session if that is still parked. -/
def reap? (pool : Pool) (ticket : Nat) : Option Pool :=
  match pool.reapers.entry? ticket with
  | some due =>
      if due ≤ pool.clock then
        some ({ pool with reapers := pool.reapers.remove ticket }.closeParked ticket)
      else none
  | none => none

/-- Lets nobody in any more. -/
def shutGate (pool : Pool) : Pool :=
  { pool with gateOpen := false }

/-- Closes the parked sessions and parks none from now on. -/
def sealUp (pool : Pool) : Pool :=
  { pool with
    isSealed := true
    parked := []
    closed := pool.closed ++ pool.parked.map fun parked => parked.2.serial }

/-- Everything that can happen to a pool. -/
inductive Action where
  | arrive (who : Nat)
  | proceed (who : Nat)
  | look (who : Nat)
  | connected (who : Nat)
  | withdraw (who : Nat)
  | judge (who : Nat) (broken : Bool)
  | renew (who : Nat)
  | giveBack (who : Nat)
  | freeSlot (who : Nat)
  | startReaper (who : Nat)
  | takeBack (who : Nat)
  | reap (ticket : Nat)
  | shutGate
  | sealUp
  /-- Time goes by. -/
  | elapse (milliseconds : Nat)
  /-- Sessions grow older. -/
  | age (milliseconds : Nat)
deriving DecidableEq, Repr

def step? (pool : Pool) : Action → Option Pool
  | .arrive who => pool.arrive? who
  | .proceed who => pool.proceed? who
  | .look who => pool.look? who
  | .connected who => pool.connected? who
  | .withdraw who => pool.withdraw? who
  | .judge who broken => pool.judge? who broken
  | .renew who => pool.renew? who
  | .giveBack who => pool.giveBack? who
  | .freeSlot who => pool.freeSlot? who
  | .startReaper who => pool.startReaper? who
  | .takeBack who => pool.takeBack? who
  | .reap ticket => pool.reap? ticket
  | .shutGate => some pool.shutGate
  | .sealUp => some pool.sealUp
  | .elapse milliseconds => some { pool with clock := pool.clock + milliseconds }
  | .age milliseconds => some { pool with ageClock := pool.ageClock + milliseconds }

/-- Takes steps one after the other. -/
def run? (pool : Pool) (actions : List Action) : Option Pool :=
  actions.foldlM step? pool

end PrintConnector.Pool
