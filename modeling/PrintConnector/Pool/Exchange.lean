import PrintConnector.Pool.Step

/-! One request to the server, asked on a borrowed session.

A request that fails is asked once more, on a session that is borrowed anew.
From the moment the session is in hand until the answer is in, it counts as
broken, so that an exchange that is abandoned halfway closes it.
-/

namespace PrintConnector

/-- The next step that a borrower takes of itself on its way to a session.  A
borrower that is not in the pool afterwards was refused. -/
def Pool.seek? (pool : Pool) (who : Nat) : Option Pool :=
  match pool.stage? who with
  | none => pool.arrive? who
  | some .waiting | some .called => pool.proceed? who
  | some .admitted => pool.look? who
  | _ => none

namespace Exchange

/-- Where an exchange stands; `α` is the answer it is after. -/
inductive Position (α : Type) where
  /-- On the way to a session. -/
  | borrowing
  /-- The session is in hand, and it may be too old. -/
  | checking
  | reconnecting
  | asking
  /-- The session goes back.  The outcome is missing if the exchange was
  abandoned. -/
  | returning (outcome : Option (Except Error α))
  | finished (outcome : Option (Except Error α))

end Exchange

structure Exchange (α : Type) where
  /-- This is the second attempt. -/
  retried : Bool := false
  position : Exchange.Position α := .borrowing

namespace Exchange

variable {α : Type}

/-- An attempt is over.  A failed one is followed by a second one, unless the
pool is closed. -/
def conclude (exchange : Exchange α) (outcome : Option (Except Error α)) : Exchange α :=
  match outcome with
  | some (.error error) =>
      if exchange.retried || error = .poolClosed then
        { exchange with position := .finished outcome }
      else { retried := true, position := .borrowing }
  | _ => { exchange with position := .finished outcome }

/-- A session is closed on return if its attempt shows that it cannot be
trusted. -/
def condemns : Except Error α → Bool
  | .ok _ => false
  | .error error => error.isTransport

/-- An attempt has its outcome, and the session goes back. -/
def settle? (exchange : Exchange α) (pool : Pool) (who : Nat) (outcome : Except Error α) :
    Option (Pool × Exchange α) := do
  let pool ← pool.judge? who (condemns outcome)
  return (pool, { exchange with position := .returning (some outcome) })

/-- One step of the return of a session: first the session, then the slot, then
the start of the reaper. -/
def release? (pool : Pool) (who : Nat) : Option Pool :=
  match pool.stage? who with
  | some (.borrowing ..) => pool.giveBack? who
  | some .emptied | some (.parked _) => pool.freeSlot? who
  | some (.leaving _) => pool.startReaper? who
  | _ => none

/-- The next step that an exchange takes of itself. -/
def go? (exchange : Exchange α) (pool : Pool) (who : Nat) : Option (Pool × Exchange α) :=
  match exchange.position, pool.stage? who with
  | .borrowing, some (.borrowing ..) => do
      let pool ← pool.judge? who true
      return (pool, { exchange with position := .checking })
  | .borrowing, _ => do
      let pool ← pool.seek? who
      if (pool.stage? who).isSome then return (pool, exchange)
      else return (pool, exchange.conclude (some (.error .poolClosed)))
  | .checking, some (.borrowing session _) =>
      let position := if pool.isStale session then .reconnecting else .asking
      some (pool, { exchange with position })
  | .returning outcome, _ => do
      let pool ← release? pool who
      if (pool.stage? who).isSome then return (pool, exchange)
      else return (pool, exchange.conclude outcome)
  | _, _ => none

/-- The opening of a session succeeded or failed. -/
def connected? (exchange : Exchange α) (pool : Pool) (who : Nat) (result : Except Error Unit) :
    Option (Pool × Exchange α) :=
  match exchange.position, result with
  | .borrowing, .ok () => do
      let pool ← pool.connected? who
      return (pool, exchange)
  | .borrowing, .error error =>
      match pool.stage? who with
      | some .connecting => do
          let pool ← pool.withdraw? who
          return (pool, exchange.conclude (some (.error error)))
      | _ => none
  | _, _ => none

/-- Connecting the session anew succeeded or failed. -/
def reconnected? (exchange : Exchange α) (pool : Pool) (who : Nat) (result : Except Error Unit) :
    Option (Pool × Exchange α) :=
  match exchange.position, result with
  | .reconnecting, .ok () => do
      let pool ← pool.renew? who
      return (pool, { exchange with position := .asking })
  | .reconnecting, .error error => exchange.settle? pool who (.error error)
  | _, _ => none

/-- The server answered, or the request failed. -/
def answered? (exchange : Exchange α) (pool : Pool) (who : Nat) (result : Except Error α) :
    Option (Pool × Exchange α) :=
  match exchange.position with
  | .asking => exchange.settle? pool who result
  | _ => none

/-- The exchange is given up while it waits for something. -/
def abandon? (exchange : Exchange α) (pool : Pool) (who : Nat) : Option (Pool × Exchange α) :=
  let given := { exchange with position := .finished none }
  match exchange.position, pool.stage? who with
  | .borrowing, none => some (pool, given)
  | .borrowing, _ => do
      let pool ← pool.withdraw? who
      return (pool, given)
  | .reconnecting, _ | .asking, _ => some (pool, { exchange with position := .returning none })
  | _, _ => none

/-- What an exchange cannot go on without. -/
inductive Need where
  /-- Nothing; it can take a step. -/
  | nothing
  | slot
  | connection
  | reconnection
  | answer
  /-- It is over. -/
  | over
deriving DecidableEq, Repr

def need (exchange : Exchange α) (pool : Pool) (who : Nat) : Need :=
  match exchange.position, pool.stage? who with
  | .borrowing, some .waiting => if pool.gateOpen then .slot else .nothing
  | .borrowing, some .connecting => .connection
  | .reconnecting, _ => .reconnection
  | .asking, _ => .answer
  | .finished _, _ => .over
  | _, _ => .nothing

end Exchange

end PrintConnector
