import PrintConnector.Pool.Exchange
import PrintConnector.Proofs.Pool.Capacity

namespace PrintConnector

namespace Pool

variable {pool before middle after next : Pool} {action : Action} {mover : Option Nat}
  {who other ticket : Nat} {stage : Stage} {session : Session}

def hasBorrower (pool : Pool) (who : Nat) : Bool :=
  (pool.stage? who).isSome

theorem stage?_moveTo : (pool.moveTo who stage).stage? other =
    if other = who then (pool.stage? who).map fun _ => stage else pool.stage? other :=
  Roster.entry_update

theorem stage?_dismiss : (pool.dismiss who).stage? other =
    if other = who then none else pool.stage? other :=
  Roster.entry_remove

theorem hasBorrower_moveTo :
    (pool.moveTo who stage).hasBorrower other = pool.hasBorrower other := by
  rw [hasBorrower, stage?_moveTo, hasBorrower]
  split
  · rename_i same
    rw [same, Option.isSome_map]
  · rfl

theorem hasBorrower_dismiss :
    (pool.dismiss who).hasBorrower other = (decide (other ≠ who) && pool.hasBorrower other) := by
  rw [hasBorrower, stage?_dismiss, hasBorrower]
  by_cases same : other = who <;> simp [same]

theorem hasBorrower_handSlot : pool.handSlot.hasBorrower other = pool.hasBorrower other := by
  unfold handSlot
  split
  · exact hasBorrower_moveTo
  · rfl

/-- What the steps of others leave as it was, and what stays once it is so. -/
structure Frame (mover : Option Nat) (before after : Pool) : Prop where
  shut : before.gateOpen = false → after.gateOpen = false
  sealed : before.isSealed = true → after.isSealed = true
  others : ∀ other, mover ≠ some other → after.hasBorrower other = before.hasBorrower other

namespace Frame

theorem refl : Frame mover pool pool :=
  ⟨id, id, fun _ _ => rfl⟩

theorem trans (first : Frame mover before middle) (second : Frame mover middle after) :
    Frame mover before after where
  shut shut := second.shut (first.shut shut)
  sealed isSealed := second.sealed (first.sealed isSealed)
  others other apart := (second.others other apart).trans (first.others other apart)

theorem moveTo : Frame mover pool (pool.moveTo who stage) :=
  ⟨id, id, fun _ _ => hasBorrower_moveTo⟩

theorem handSlot : Frame mover pool pool.handSlot := by
  refine ⟨?_, ?_, fun _ _ => hasBorrower_handSlot⟩ <;> unfold Pool.handSlot <;> split <;> exact id

theorem dismiss : Frame (some who) pool (pool.dismiss who) := by
  refine ⟨id, id, ?_⟩
  intro other apart
  have different : other ≠ who := fun same => apart (congrArg some same.symm)
  simp [hasBorrower_dismiss, different]

theorem enter {free : Nat} : Frame (some who) pool
    { pool with free, borrowers := pool.borrowers.add who stage } := by
  refine ⟨id, id, ?_⟩
  intro other apart
  have different : other ≠ who := fun same => apart (congrArg some same.symm)
  change (Roster.entry? (pool.borrowers.add who stage) other).isSome = _
  rw [Roster.entry_add, if_neg different, Option.or_none]
  rfl

end Frame

/-- The borrower that takes a step. -/
def Action.borrower? : Action → Option Nat
  | .arrive who | .proceed who | .look who | .connected who | .withdraw who | .judge who _
  | .renew who | .giveBack who | .freeSlot who | .startReaper who | .takeBack who => some who
  | .reap _ | .shutGate | .sealUp | .elapse _ | .age _ => none

/-- What a step is made of: changes to the borrower that takes it, a slot that is
handed on, and changes to everything but the borrowers. -/
inductive Changes (mover : Option Nat) : Pool → Pool → Prop where
  | refl {pool : Pool} : Changes mover pool pool
  | trans {before middle after : Pool} (first : Changes mover before middle)
      (second : Changes mover middle after) : Changes mover before after
  | moveTo {pool : Pool} {who : Nat} {stage : Stage} (mine : mover = some who) :
      Changes mover pool (pool.moveTo who stage)
  | dismiss {pool : Pool} {who : Nat} (mine : mover = some who) :
      Changes mover pool (pool.dismiss who)
  | enter {pool : Pool} {who free : Nat} {stage : Stage} (mine : mover = some who)
      (absent : pool.stage? who = none) :
      Changes mover pool { pool with free, borrowers := pool.borrowers.add who stage }
  | handSlot {pool : Pool} : Changes mover pool pool.handSlot
  | rest {pool next : Pool} (borrowers : next.borrowers = pool.borrowers)
      (limits : next.limits = pool.limits)
      (shut : pool.gateOpen = false → next.gateOpen = false)
      (sealed : pool.isSealed = true → next.isSealed = true) : Changes mover pool next

theorem Changes.closeParked : Changes mover pool (pool.closeParked ticket) := by
  unfold Pool.closeParked
  split
  · exact .rest rfl rfl id id
  · exact .refl

theorem changes_of_step (stepped : pool.step? action = some next) :
    Changes action.borrower? pool next := by
  cases action with
  | arrive who =>
      change pool.arrive? who = some next at stepped
      unfold arrive? at stepped
      split at stepped
      · contradiction
      · split at stepped
        · cases stepped
          exact .refl
        · split at stepped <;> cases stepped <;> exact .enter rfl ‹_›
  | proceed who =>
      change pool.proceed? who = some next at stepped
      unfold proceed? at stepped
      split at stepped
      · split at stepped
        · contradiction
        · cases stepped
          exact .dismiss rfl
      · split at stepped
        · cases stepped
          exact .moveTo rfl
        · cases stepped
          exact .trans (.dismiss rfl) .handSlot
      · contradiction
  | look who =>
      change pool.look? who = some next at stepped
      unfold look? at stepped
      split at stepped
      · rename_i parked _ _
        cases stepped
        have taken : Changes (some who) pool { pool with parked } := .rest rfl rfl id id
        exact taken.trans (.moveTo rfl)
      · cases stepped
        exact .moveTo rfl
      · contradiction
  | connected who =>
      change pool.connected? who = some next at stepped
      unfold connected? at stepped
      split at stepped
      · cases stepped
        have opened : Changes (some who) pool { pool with opened := pool.opened + 1 } :=
          .rest rfl rfl id id
        exact opened.trans (.moveTo rfl)
      · contradiction
  | withdraw who =>
      change pool.withdraw? who = some next at stepped
      unfold withdraw? at stepped
      split at stepped
      · cases stepped
        exact .dismiss rfl
      · cases stepped
        exact .trans (.dismiss rfl) .handSlot
      · cases stepped
        exact .trans (.dismiss rfl) .handSlot
      · cases stepped
        exact .trans (.dismiss rfl) .handSlot
      · contradiction
  | judge who broken =>
      change pool.judge? who broken = some next at stepped
      unfold judge? at stepped
      split at stepped
      · cases stepped
        exact .moveTo rfl
      · contradiction
  | renew who =>
      change pool.renew? who = some next at stepped
      unfold renew? at stepped
      split at stepped
      · cases stepped
        exact .moveTo rfl
      · contradiction
  | giveBack who =>
      change pool.giveBack? who = some next at stepped
      unfold giveBack? at stepped
      split at stepped
      · rename_i session _ _
        split at stepped
        · cases stepped
          have closed : Changes (some who) pool (pool.close session) := .rest rfl rfl id id
          exact closed.trans (.moveTo rfl)
        · cases stepped
          have parked : Changes (some who) pool { pool with
              parked := (pool.nextTicket, session) :: pool.parked
              nextTicket := pool.nextTicket + 1 } := .rest rfl rfl id id
          exact parked.trans (.moveTo rfl)
      · contradiction
  | freeSlot who =>
      change pool.freeSlot? who = some next at stepped
      unfold freeSlot? at stepped
      split at stepped
      · cases stepped
        exact .trans (.dismiss rfl) .handSlot
      · cases stepped
        exact .trans (.moveTo rfl) .handSlot
      · contradiction
  | startReaper who =>
      change pool.startReaper? who = some next at stepped
      unfold startReaper? at stepped
      split at stepped
      · cases stepped
        exact .trans (.dismiss rfl) (.rest rfl rfl id id)
      · contradiction
  | takeBack who =>
      change pool.takeBack? who = some next at stepped
      unfold takeBack? at stepped
      split at stepped
      · cases stepped
        exact .trans (.dismiss rfl) .closeParked
      · contradiction
  | reap ticket =>
      change pool.reap? ticket = some next at stepped
      unfold reap? at stepped
      split at stepped
      · split at stepped
        · cases stepped
          have started : Changes none pool { pool with reapers := pool.reapers.remove ticket } :=
            .rest rfl rfl id id
          exact started.trans .closeParked
        · contradiction
      · contradiction
  | shutGate =>
      cases stepped
      exact .rest rfl rfl (fun _ => rfl) id
  | sealUp =>
      cases stepped
      exact .rest rfl rfl id fun _ => rfl
  | elapse _ | age _ =>
      cases stepped
      exact .rest rfl rfl id id

theorem Changes.frame (changes : Changes mover before after) : Frame mover before after := by
  induction changes with
  | refl => exact .refl
  | trans _ _ first second => exact first.trans second
  | moveTo => exact .moveTo
  | dismiss mine => exact mine ▸ .dismiss
  | enter mine => exact mine ▸ .enter
  | handSlot => exact .handSlot
  | rest borrowers _ shut sealed =>
      exact ⟨shut, sealed, fun _ _ => by rw [hasBorrower, hasBorrower, stage?, borrowers]; rfl⟩

theorem frame_of_step (stepped : pool.step? action = some next) :
    Frame action.borrower? pool next :=
  (changes_of_step stepped).frame

/-- At most one step, which is nobody's or one borrower's. -/
inductive Turns (mover : Option Nat) (pool : Pool) : Pool → Prop where
  | idle : Turns mover pool pool
  | step {action : Action} {next : Pool} (stepped : pool.step? action = some next)
      (mine : ∀ who, action.borrower? = some who → mover = some who) : Turns mover pool next

theorem Turns.frame (turns : Turns mover pool next) : Frame mover pool next := by
  cases turns with
  | idle => exact .refl
  | step stepped mine =>
      have frame := frame_of_step stepped
      refine ⟨frame.shut, frame.sealed, ?_⟩
      intro other apart
      exact frame.others other fun borrower => apart (mine other borrower)

theorem Turns.balanced {limits : Limits} (turns : Turns mover pool next)
    (balanced : Balanced limits 0 pool) : Balanced limits 0 next := by
  cases turns with
  | idle => exact balanced
  | step stepped => exact balanced.step stepped

theorem Turns.own (action : Action) (stepped : pool.step? action = some next)
    (borrower : action.borrower? = some who) : Turns (some who) pool next :=
  .step stepped fun _ other => borrower.symm.trans other

theorem turns_of_seek (sought : pool.seek? who = some next) : Turns (some who) pool next := by
  unfold seek? at sought
  split at sought
  · exact .own (.arrive who) sought rfl
  · exact .own (.proceed who) sought rfl
  · exact .own (.proceed who) sought rfl
  · exact .own (.look who) sought rfl
  · contradiction

theorem turns_of_withdraw (withdrawn : pool.withdraw? who = some next) :
    Turns (some who) pool next ∧ next.hasBorrower who = false := by
  refine ⟨.own (.withdraw who) withdrawn rfl, ?_⟩
  unfold withdraw? at withdrawn
  split at withdrawn
  · cases withdrawn
    simp [hasBorrower_dismiss]
  · cases withdrawn
    simp [hasBorrower_handSlot, hasBorrower_dismiss]
  · cases withdrawn
    simp [hasBorrower_handSlot, hasBorrower_dismiss]
  · cases withdrawn
    simp [hasBorrower_handSlot, hasBorrower_dismiss]
  · contradiction

end Pool

namespace Exchange

variable {α : Type} {exchange next : Exchange α} {pool after : Pool} {who : Nat}

theorem turns_of_release (released : release? pool who = some after) :
    Pool.Turns (some who) pool after := by
  unfold release? at released
  split at released
  · exact .own (.giveBack who) released rfl
  · exact .own (.freeSlot who) released rfl
  · exact .own (.freeSlot who) released rfl
  · exact .own (.startReaper who) released rfl
  · contradiction

def isOver (exchange : Exchange α) : Bool :=
  match exchange.position with
  | .finished _ => true
  | _ => false

/-- Was given up, and has no outcome. -/
def isGivenUp (exchange : Exchange α) : Bool :=
  match exchange.position with
  | .returning none | .finished none => true
  | _ => false

/-- What a step of an exchange does. -/
structure Trades (exchange : Exchange α) (pool : Pool) (who : Nat) (after : Pool)
    (next : Exchange α) : Prop where
  turns : Pool.Turns (some who) pool after
  /-- An exchange is over when its borrower has left. -/
  leaves : next.isOver = true → after.hasBorrower who = false

theorem isGivenUp_conclude {outcome : Option (Except Error α)}
    (given : (exchange.conclude outcome).isGivenUp = true) : outcome = none := by
  unfold conclude at given
  split at given
  · split at given <;> contradiction
  · rename_i other
    rcases outcome with _ | error | reply
    · rfl
    · exact absurd rfl (other error)
    · contradiction

theorem trades_settle {outcome : Except Error α}
    (settled : exchange.settle? pool who outcome = some (after, next)) :
    exchange.Trades pool who after next ∧ next.isGivenUp = false := by
  obtain ⟨judged, step, same⟩ := Option.bind_eq_some_iff.mp settled
  obtain ⟨rfl, rfl⟩ := Prod.mk.inj (Option.some.inj same)
  refine ⟨⟨.own (.judge who (condemns outcome)) step rfl, ?_⟩, rfl⟩
  intro ended
  contradiction

theorem trades_go (gone : exchange.go? pool who = some (after, next)) :
    exchange.Trades pool who after next ∧
      (next.isGivenUp = true → exchange.isGivenUp = true) := by
  unfold go? at gone
  split at gone
  · obtain ⟨judged, step, same⟩ := Option.bind_eq_some_iff.mp gone
    obtain ⟨rfl, rfl⟩ := Prod.mk.inj (Option.some.inj same)
    exact ⟨⟨.own (.judge who true) step rfl, fun ended => by contradiction⟩,
      fun given => by contradiction⟩
  · rename_i position _
    obtain ⟨sought, step, same⟩ := Option.bind_eq_some_iff.mp gone
    split at same
    · obtain ⟨rfl, rfl⟩ := Prod.mk.inj (Option.some.inj same)
      exact ⟨⟨Pool.turns_of_seek step, fun ended => by simp [isOver, position] at ended⟩, id⟩
    · rename_i left
      obtain ⟨rfl, rfl⟩ := Prod.mk.inj (Option.some.inj same)
      refine ⟨⟨Pool.turns_of_seek step, fun _ => Bool.eq_false_iff.mpr left⟩, ?_⟩
      intro given
      have refused := isGivenUp_conclude given
      contradiction
  · obtain ⟨rfl, rfl⟩ := Prod.mk.inj (Option.some.inj gone)
    refine ⟨⟨.idle, ?_⟩, ?_⟩
    · intro ended
      dsimp only [isOver] at ended
      split at ended
      · rename_i position
        split at position <;> contradiction
      · contradiction
    · intro given
      dsimp only [isGivenUp] at given
      split at given
      · rename_i position
        split at position <;> contradiction
      · rename_i position
        split at position <;> contradiction
      · contradiction
  · rename_i outcome position
    obtain ⟨released, step, same⟩ := Option.bind_eq_some_iff.mp gone
    split at same
    · obtain ⟨rfl, rfl⟩ := Prod.mk.inj (Option.some.inj same)
      exact ⟨⟨turns_of_release step, fun ended => by simp [isOver, position] at ended⟩, id⟩
    · rename_i left
      obtain ⟨rfl, rfl⟩ := Prod.mk.inj (Option.some.inj same)
      refine ⟨⟨turns_of_release step, fun _ => Bool.eq_false_iff.mpr left⟩, ?_⟩
      intro given
      obtain rfl := isGivenUp_conclude given
      simp [isGivenUp, position]
  · contradiction

theorem trades_connected {result : Except Error Unit}
    (connected : exchange.connected? pool who result = some (after, next)) :
    exchange.Trades pool who after next ∧
      (next.isGivenUp = true → exchange.isGivenUp = true) := by
  unfold connected? at connected
  split at connected
  · rename_i position
    obtain ⟨opened, step, same⟩ := Option.bind_eq_some_iff.mp connected
    obtain ⟨rfl, rfl⟩ := Prod.mk.inj (Option.some.inj same)
    exact ⟨⟨.own (.connected who) step rfl,
      fun ended => by simp [isOver, position] at ended⟩, id⟩
  · split at connected
    · obtain ⟨withdrawn, step, same⟩ := Option.bind_eq_some_iff.mp connected
      obtain ⟨rfl, rfl⟩ := Prod.mk.inj (Option.some.inj same)
      obtain ⟨turns, left⟩ := Pool.turns_of_withdraw step
      refine ⟨⟨turns, fun _ => left⟩, ?_⟩
      intro given
      have failed := isGivenUp_conclude given
      contradiction
    · contradiction
  · contradiction

theorem trades_reconnected {result : Except Error Unit}
    (reconnected : exchange.reconnected? pool who result = some (after, next)) :
    exchange.Trades pool who after next ∧ next.isGivenUp = false := by
  unfold reconnected? at reconnected
  split at reconnected
  · obtain ⟨renewed, step, same⟩ := Option.bind_eq_some_iff.mp reconnected
    obtain ⟨rfl, rfl⟩ := Prod.mk.inj (Option.some.inj same)
    exact ⟨⟨.own (.renew who) step rfl, fun ended => by contradiction⟩, rfl⟩
  · exact trades_settle reconnected
  · contradiction

theorem trades_answered {result : Except Error α}
    (answered : exchange.answered? pool who result = some (after, next)) :
    exchange.Trades pool who after next ∧ next.isGivenUp = false := by
  unfold answered? at answered
  split at answered
  · exact trades_settle answered
  · contradiction

theorem trades_abandon (abandoned : exchange.abandon? pool who = some (after, next)) :
    exchange.Trades pool who after next := by
  unfold abandon? at abandoned
  split at abandoned
  · rename_i absent
    obtain ⟨rfl, rfl⟩ := Prod.mk.inj (Option.some.inj abandoned)
    exact ⟨.idle, fun _ => by simp [Pool.hasBorrower, absent]⟩
  · obtain ⟨withdrawn, step, same⟩ := Option.bind_eq_some_iff.mp abandoned
    obtain ⟨rfl, rfl⟩ := Prod.mk.inj (Option.some.inj same)
    obtain ⟨turns, left⟩ := Pool.turns_of_withdraw step
    exact ⟨turns, fun _ => left⟩
  · obtain ⟨rfl, rfl⟩ := Prod.mk.inj (Option.some.inj abandoned)
    exact ⟨.idle, fun ended => by contradiction⟩
  · obtain ⟨rfl, rfl⟩ := Prod.mk.inj (Option.some.inj abandoned)
    exact ⟨.idle, fun ended => by contradiction⟩
  · contradiction

/-- A shut pool refuses an exchange, or it has refused it. -/
inductive Refused (exchange : Exchange α) (pool : Pool) (who : Nat) : Prop where
  | waiting (position : exchange.position = .borrowing) (absent : pool.hasBorrower who = false)
  | ended (position : exchange.position = .finished (some (.error .poolClosed)))

theorem Refused.go (refused : exchange.Refused pool who) (shut : pool.gateOpen = false)
    (gone : exchange.go? pool who = some (after, next)) : next.Refused after who := by
  cases refused with
  | waiting position absent =>
      have missing : pool.stage? who = none := by
        simpa [Pool.hasBorrower] using absent
      have same : exchange.conclude (some (.error .poolClosed)) = next := by
        have turned : some (pool, exchange.conclude (some (.error .poolClosed))) =
            some (after, next) := by
          simpa [go?, position, missing, Pool.seek?, Pool.arrive?, shut] using gone
        exact (Prod.mk.inj (Option.some.inj turned)).2
      rw [← same]
      exact .ended (by simp [conclude])
  | ended position => simp [go?, position] at gone

theorem Refused.connected {result : Except Error Unit} (refused : exchange.Refused pool who) :
    exchange.connected? pool who result = none := by
  cases refused with
  | waiting position absent =>
      have missing : pool.stage? who = none := by
        simpa [Pool.hasBorrower] using absent
      cases result <;> simp [connected?, position, missing, Pool.connected?]
  | ended position => simp [connected?, position]

theorem Refused.reconnected {result : Except Error Unit} (refused : exchange.Refused pool who) :
    exchange.reconnected? pool who result = none := by
  rcases refused with ⟨position, -⟩ | position <;> simp [reconnected?, position]

theorem Refused.answered {result : Except Error α} (refused : exchange.Refused pool who) :
    exchange.answered? pool who result = none := by
  rcases refused with ⟨position, -⟩ | position <;> simp [answered?, position]

end Exchange

end PrintConnector
