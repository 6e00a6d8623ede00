import PrintConnector.Pool.Exchange
import PrintConnector.Query

/-! What somebody does who borrows a session and keeps it.

A visit ends with a session in hand that was just borrowed, that is young
enough for a request, or that was asked for the list of printers.  The session
goes back later.
-/

namespace PrintConnector

namespace Visit

inductive Position where
  | borrowing
  | checking
  | reconnecting
  | asking
  /-- The answer is missing if nothing was asked. -/
  | finished (outcome : Except Error (Option (Reply (List UInt8))))

end Visit

structure Visit where
  /-- The borrower. -/
  guest : Nat
  /-- What is asked once the session is young enough. -/
  query : Option Query
  position : Visit.Position

namespace Visit

/-- Borrows a session. -/
def borrow (guest : Nat) : Visit :=
  ⟨guest, none, .borrowing⟩

/-- Makes sure that the session in hand is young enough. -/
def freshen (guest : Nat) : Visit :=
  ⟨guest, none, .checking⟩

/-- Asks for something on the session in hand. -/
def ask (guest : Nat) (query : Query) : Visit :=
  ⟨guest, some query, .checking⟩

/-- The session is young enough. -/
def ready (visit : Visit) : Visit :=
  match visit.query with
  | some _ => { visit with position := .asking }
  | none => { visit with position := .finished (.ok none) }

def fail (visit : Visit) (error : Error) : Visit :=
  { visit with position := .finished (.error error) }

/-- The next step that a visit takes of itself. -/
def go? (visit : Visit) (pool : Pool) : Option (Pool × Visit) :=
  match visit.position, pool.stage? visit.guest with
  | .borrowing, some (.borrowing ..) => some (pool, visit.ready)
  | .borrowing, _ => do
      let pool ← pool.seek? visit.guest
      if (pool.stage? visit.guest).isSome then return (pool, visit)
      else return (pool, visit.fail .poolClosed)
  | .checking, some (.borrowing session _) =>
      if pool.isStale session then some (pool, { visit with position := .reconnecting })
      else some (pool, visit.ready)
  | _, _ => none

def connected? (visit : Visit) (pool : Pool) (result : Except Error Unit) :
    Option (Pool × Visit) :=
  match visit.position, result with
  | .borrowing, .ok () => do
      let pool ← pool.connected? visit.guest
      return (pool, visit)
  | .borrowing, .error error => do
      let pool ← pool.withdraw? visit.guest
      return (pool, visit.fail error)
  | _, _ => none

/-- A session that could not be connected anew counts as broken. -/
def reconnected? (visit : Visit) (pool : Pool) (result : Except Error Unit) :
    Option (Pool × Visit) :=
  match visit.position, result with
  | .reconnecting, .ok () => do
      let pool ← pool.renew? visit.guest
      return (pool, visit.ready)
  | .reconnecting, .error error => do
      let pool ← pool.judge? visit.guest true
      return (pool, visit.fail error)
  | _, _ => none

def answered? (visit : Visit) (result : Except Error (Reply (List UInt8))) : Option Visit :=
  match visit.position with
  | .asking => some { visit with position := .finished (result.map some) }
  | _ => none

/-- Gives up before a session is in hand. -/
def abandon? (visit : Visit) (pool : Pool) : Option Pool :=
  match visit.position with
  | .borrowing => pool.withdraw? visit.guest
  | _ => none

open Exchange (Need)

def need (visit : Visit) (pool : Pool) : Need :=
  match visit.position, pool.stage? visit.guest with
  | .borrowing, some .waiting => if pool.gateOpen then .slot else .nothing
  | .borrowing, some .connecting => .connection
  | .reconnecting, _ => .reconnection
  | .asking, _ => .answer
  | .finished _, _ => .over
  | _, _ => .nothing

end Visit

end PrintConnector
