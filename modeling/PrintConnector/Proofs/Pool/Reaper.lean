import Mathlib.Data.List.Induction
import PrintConnector.Proofs.Pool.Errand

/-! The reapers of parked sessions.

A return that parks a session draws a ticket that was never drawn before, and its
guard starts one reaper for it.  The ticket is on the shelf until the session is
borrowed, reaped or closed with the pool, and never comes back: a session that is
returned once more has another one.  So a reaper that finds its ticket on the
shelf finds the session as its own return left it there.
-/

namespace PrintConnector.Pool

variable {limits : Limits} {pool before middle after next : Pool} {action : Action}
  {who other ticket due : Nat} {old new : Stage} {session : Session}

/-- The ticket whose reaper is about to be started. -/
def Stage.minds? : Stage → Option Nat
  | .parked ticket | .leaving ticket => some ticket
  | _ => none

/-- The ticket whose reaper a borrower is about to start. -/
def minds? (pool : Pool) (who : Nat) : Option Nat :=
  (pool.stage? who).bind Stage.minds?

theorem minds?_moveTo (found : pool.stage? who = some old) :
    (pool.moveTo who new).minds? other = if other = who then new.minds? else pool.minds? other := by
  rw [minds?, stage?_moveTo, minds?]
  split
  · rw [found]
    rfl
  · rfl

theorem minds?_moveTo_kept (found : pool.stage? who = some old) (same : new.minds? = old.minds?) :
    (pool.moveTo who new).minds? other = pool.minds? other := by
  rw [minds?_moveTo found]
  split
  · rename_i here
    rw [here, minds?, found, same]
    rfl
  · rfl

theorem minds?_dismiss :
    (pool.dismiss who).minds? other = if other = who then none else pool.minds? other := by
  rw [minds?, stage?_dismiss, minds?]
  split <;> rfl

theorem minds?_dismiss_kept (found : pool.stage? who = some old) (nothing : old.minds? = none) :
    (pool.dismiss who).minds? other = pool.minds? other := by
  rw [minds?_dismiss]
  split
  · rename_i here
    rw [here, minds?, found]
    exact nothing.symm
  · rfl

theorem minds?_handSlot (distinct : pool.borrowers.Distinct) :
    pool.handSlot.minds? other = pool.minds? other := by
  rw [minds?, minds?]
  obtain same | ⟨waits, called⟩ := leavesAlone_handSlot distinct other
  · rw [same]
  · rw [waits, called]
    rfl

theorem minds?_enter {free : Nat} (absent : pool.stage? who = none) (nothing : new.minds? = none) :
    minds? { pool with free, borrowers := pool.borrowers.add who new } other =
      pool.minds? other := by
  change (Roster.entry? (pool.borrowers.add who new) other).bind Stage.minds? = _
  rw [Roster.entry_add, minds?]
  by_cases here : other = who
  · have missing : pool.borrowers.entry? other = none := here ▸ absent
    rw [if_pos here, stage?, missing]
    exact nothing
  · rw [if_neg here, Option.or_none]
    rfl

theorem shelf_handSlot (pool : Pool) :
    pool.handSlot.parked = pool.parked ∧ pool.handSlot.reapers = pool.reapers ∧
      pool.handSlot.nextTicket = pool.nextTicket ∧ pool.handSlot.clock = pool.clock := by
  unfold handSlot
  split <;> exact ⟨rfl, rfl, rfl, rfl⟩

theorem entry?_closeParked : (pool.closeParked ticket).parked.entry? other =
    if other = ticket then none else pool.parked.entry? other := by
  unfold closeParked
  split
  · exact Roster.entry_remove
  · split
    · rename_i missing here
      rw [here, missing]
    · rfl

theorem rest_closeParked (pool : Pool) (ticket : Nat) :
    (pool.closeParked ticket).reapers = pool.reapers ∧
    (pool.closeParked ticket).nextTicket = pool.nextTicket ∧
    (pool.closeParked ticket).clock = pool.clock ∧
    (pool.closeParked ticket).borrowers = pool.borrowers := by
  unfold closeParked
  split <;> exact ⟨rfl, rfl, rfl, rfl⟩

/-- What a step does to the shelf, to the reapers and to those who are about to
start one. -/
inductive Tends (pool next : Pool) : Action → Prop where
  /-- No ticket is drawn and no reaper comes or goes. -/
  | keeps {action : Action}
      (parked : ∀ ticket session, next.parked.entry? ticket = some session →
        pool.parked.entry? ticket = some session)
      (reapers : next.reapers = pool.reapers)
      (minds : ∀ other, next.minds? other = pool.minds? other)
      (tickets : next.nextTicket = pool.nextTicket) (clock : pool.clock ≤ next.clock) :
      Tends pool next action
  | parks {who : Nat} {session : Session}
      (returned : pool.stage? who = some (.borrowing session false))
      (parked : next.parked = (pool.nextTicket, session) :: pool.parked)
      (reapers : next.reapers = pool.reapers)
      (minds : ∀ other, next.minds? other =
        if other = who then some pool.nextTicket else pool.minds? other)
      (tickets : next.nextTicket = pool.nextTicket + 1) (clock : next.clock = pool.clock) :
      Tends pool next (.giveBack who)
  | starts {who ticket : Nat} (leaves : pool.stage? who = some (.leaving ticket))
      (parked : next.parked = pool.parked)
      (reapers : next.reapers = pool.reapers.add ticket (pool.clock + pool.limits.grace))
      (minds : ∀ other, next.minds? other = if other = who then none else pool.minds? other)
      (tickets : next.nextTicket = pool.nextTicket) (clock : next.clock = pool.clock) :
      Tends pool next (.startReaper who)
  | takesBack {who ticket : Nat} (leaves : pool.stage? who = some (.leaving ticket))
      (parked : ∀ other, next.parked.entry? other =
        if other = ticket then none else pool.parked.entry? other)
      (reapers : next.reapers = pool.reapers)
      (minds : ∀ other, next.minds? other = if other = who then none else pool.minds? other)
      (tickets : next.nextTicket = pool.nextTicket) (clock : next.clock = pool.clock) :
      Tends pool next (.takeBack who)
  | reaps {ticket due : Nat} (pending : pool.reapers.entry? ticket = some due)
      (overdue : due ≤ pool.clock)
      (parked : ∀ other, next.parked.entry? other =
        if other = ticket then none else pool.parked.entry? other)
      (reapers : next.reapers = pool.reapers.remove ticket)
      (minds : ∀ other, next.minds? other = pool.minds? other)
      (tickets : next.nextTicket = pool.nextTicket) (clock : next.clock = pool.clock) :
      Tends pool next (.reap ticket)

theorem Tends.moved (found : pool.stage? who = some old) (same : new.minds? = old.minds?) :
    Tends pool (pool.moveTo who new) action :=
  .keeps (fun _ _ => id) rfl (fun _ => minds?_moveTo_kept found same) rfl (Nat.le_refl _)

theorem Tends.dismissed (found : pool.stage? who = some old) (nothing : old.minds? = none) :
    Tends pool (pool.dismiss who) action :=
  .keeps (fun _ _ => id) rfl (fun _ => minds?_dismiss_kept found nothing) rfl (Nat.le_refl _)

/-- Whatever is kept is kept as well when a slot is handed on after it. -/
theorem Tends.freed (distinct : middle.borrowers.Distinct) (parked : middle.parked = pool.parked)
    (reapers : middle.reapers = pool.reapers)
    (minds : ∀ other, middle.minds? other = pool.minds? other)
    (tickets : middle.nextTicket = pool.nextTicket) (clock : middle.clock = pool.clock) :
    Tends pool middle.handSlot action := by
  obtain ⟨parked', reapers', tickets', clock'⟩ := shelf_handSlot middle
  refine .keeps ?_ (reapers'.trans reapers) ?_ (tickets'.trans tickets)
    (Nat.le_of_eq (clock'.trans clock).symm)
  · intro ticket session
    rw [parked', parked]
    exact id
  · intro other
    rw [minds?_handSlot distinct, minds]

theorem tends_of_step (balanced : Balanced limits 0 pool)
    (stepped : pool.step? action = some next) : Tends pool next action := by
  have distinct := balanced.borrowers
  cases action with
  | arrive who =>
      change pool.arrive? who = some next at stepped
      unfold arrive? at stepped
      split at stepped
      · contradiction
      · rename_i absent
        split at stepped
        · cases stepped
          exact .keeps (fun _ _ => id) rfl (fun _ => rfl) rfl (Nat.le_refl _)
        · split at stepped
          all_goals
            cases stepped
            exact .keeps (fun _ _ => id) rfl (fun _ => minds?_enter absent rfl) rfl (Nat.le_refl _)
  | proceed who =>
      change pool.proceed? who = some next at stepped
      unfold proceed? at stepped
      split at stepped
      · rename_i waits
        split at stepped
        · contradiction
        · cases stepped
          exact .dismissed waits rfl
      · rename_i called
        split at stepped
        · cases stepped
          exact .moved called rfl
        · cases stepped
          exact .freed distinct.remove rfl rfl (fun _ => minds?_dismiss_kept called rfl) rfl rfl
      · contradiction
  | look who =>
      change pool.look? who = some next at stepped
      unfold look? at stepped
      split at stepped
      · rename_i newest session rest admitted shelf
        cases stepped
        refine .keeps ?_ rfl (fun other => ?_) rfl (Nat.le_refl _)
        · intro ticket parked found
          have tickets := balanced.parkedDistinct
          refine tickets.entry_of_mem ?_
          rw [shelf]
          exact List.mem_cons_of_mem _ (Roster.mem_of_entry found)
        · have found : stage? { pool with parked := rest } who = some .admitted := admitted
          exact minds?_moveTo_kept found rfl
      · rename_i admitted _
        cases stepped
        exact .moved admitted rfl
      · contradiction
  | connected who =>
      change pool.connected? who = some next at stepped
      unfold connected? at stepped
      split at stepped
      · rename_i connects
        cases stepped
        refine .keeps (fun _ _ => id) rfl (fun other => ?_) rfl (Nat.le_refl _)
        have found : stage? { pool with opened := pool.opened + 1 } who = some .connecting :=
          connects
        exact minds?_moveTo_kept found rfl
      · contradiction
  | withdraw who =>
      change pool.withdraw? who = some next at stepped
      unfold withdraw? at stepped
      split at stepped
      · rename_i waits
        cases stepped
        exact .dismissed waits rfl
      · rename_i called
        cases stepped
        exact .freed distinct.remove rfl rfl (fun _ => minds?_dismiss_kept called rfl) rfl rfl
      · rename_i admitted
        cases stepped
        exact .freed distinct.remove rfl rfl (fun _ => minds?_dismiss_kept admitted rfl) rfl rfl
      · rename_i connects
        cases stepped
        exact .freed distinct.remove rfl rfl (fun _ => minds?_dismiss_kept connects rfl) rfl rfl
      · contradiction
  | judge who broken =>
      change pool.judge? who broken = some next at stepped
      unfold judge? at stepped
      split at stepped
      · rename_i borrows
        cases stepped
        exact .moved borrows rfl
      · contradiction
  | renew who =>
      change pool.renew? who = some next at stepped
      unfold renew? at stepped
      split at stepped
      · rename_i borrows
        cases stepped
        exact .moved borrows rfl
      · contradiction
  | giveBack who =>
      change pool.giveBack? who = some next at stepped
      unfold giveBack? at stepped
      split at stepped
      · rename_i session broken borrows
        split at stepped
        · cases stepped
          refine .keeps (fun _ _ => id) rfl (fun other => ?_) rfl (Nat.le_refl _)
          have found : (pool.close session).stage? who = some (.borrowing session broken) := borrows
          exact minds?_moveTo_kept found rfl
        · rename_i kept
          cases stepped
          have sound : broken = false := by simp_all
          refine .parks (sound ▸ borrows) rfl rfl (fun other => ?_) rfl rfl
          let shelved : Pool := { pool with
            parked := (pool.nextTicket, session) :: pool.parked
            nextTicket := pool.nextTicket + 1 }
          have found : shelved.stage? who = some (.borrowing session broken) := borrows
          exact minds?_moveTo found
      · contradiction
  | freeSlot who =>
      change pool.freeSlot? who = some next at stepped
      unfold freeSlot? at stepped
      split at stepped
      · rename_i emptied
        cases stepped
        exact .freed distinct.remove rfl rfl (fun _ => minds?_dismiss_kept emptied rfl) rfl rfl
      · rename_i parked
        cases stepped
        exact .freed distinct.update rfl rfl (fun _ => minds?_moveTo_kept parked rfl) rfl rfl
      · contradiction
  | startReaper who =>
      change pool.startReaper? who = some next at stepped
      unfold startReaper? at stepped
      split at stepped
      · rename_i leaves
        cases stepped
        exact .starts leaves rfl rfl (fun _ => minds?_dismiss) rfl rfl
      · contradiction
  | takeBack who =>
      change pool.takeBack? who = some next at stepped
      unfold takeBack? at stepped
      split at stepped
      · rename_i ticket leaves
        cases stepped
        obtain ⟨reapers, tickets, clock, borrowers⟩ :=
          rest_closeParked (pool.dismiss who) ticket
        refine .takesBack leaves (fun _ => entry?_closeParked) reapers (fun other => ?_) tickets
          clock
        rw [← minds?_dismiss, minds?, minds?, stage?, stage?, borrowers]
      · contradiction
  | reap ticket =>
      change pool.reap? ticket = some next at stepped
      unfold reap? at stepped
      split at stepped
      · rename_i due pending
        split at stepped
        · rename_i overdue
          cases stepped
          obtain ⟨reapers, tickets, clock, borrowers⟩ :=
            rest_closeParked { pool with reapers := pool.reapers.remove ticket } ticket
          refine .reaps pending overdue (fun _ => entry?_closeParked) reapers (fun other => ?_)
            tickets clock
          rw [minds?, minds?, stage?, stage?, borrowers]
        · contradiction
      · contradiction
  | shutGate =>
      cases stepped
      exact .keeps (fun _ _ => id) rfl (fun _ => rfl) rfl (Nat.le_refl _)
  | sealUp =>
      cases stepped
      exact .keeps (fun _ _ found => by simp [sealUp] at found) rfl (fun _ => rfl) rfl
        (Nat.le_refl _)
  | elapse milliseconds =>
      cases stepped
      exact .keeps (fun _ _ => id) rfl (fun _ => rfl) rfl (Nat.le_add_right _ _)
  | age milliseconds =>
      cases stepped
      exact .keeps (fun _ _ => id) rfl (fun _ => rfl) rfl (Nat.le_refl _)

/-- Every parked session has one reaper, or one borrower that is about to start
it. -/
structure Minded (limits : Limits) (pool : Pool) : Prop where
  balanced : Balanced limits 0 pool
  setup : pool.limits = limits
  reapers : pool.reapers.Distinct
  alone : ∀ who other ticket, pool.minds? who = some ticket → pool.minds? other = some ticket →
    who = other
  /-- Nobody minds a ticket that has its reaper. -/
  apart : ∀ who ticket, pool.minds? who = some ticket → pool.reapers.entry? ticket = none
  drawn : ∀ who ticket, pool.minds? who = some ticket → ticket < pool.nextTicket
  due : ∀ ticket due, pool.reapers.entry? ticket = some due →
    ticket < pool.nextTicket ∧ due ≤ pool.clock + limits.grace
  shelved : ∀ ticket session, pool.parked.entry? ticket = some session →
    (∃ who, pool.minds? who = some ticket) ∨ ∃ due, pool.reapers.entry? ticket = some due

theorem start_minded (limits : Limits) : Minded limits (start limits) where
  balanced := start_balanced limits
  setup := rfl
  reapers := List.nodup_nil
  alone _ _ _ minds := by simp [start, minds?, stage?] at minds
  apart _ _ minds := by simp [start, minds?, stage?] at minds
  drawn _ _ minds := by simp [start, minds?, stage?] at minds
  due _ _ pending := by simp [start] at pending
  shelved _ _ parked := by simp [start] at parked

theorem minds?_of_stage (found : pool.stage? who = some old) : pool.minds? who = old.minds? := by
  rw [minds?, found]
  rfl

namespace Minded

/-- A reaper comes in the place of the borrower that minded its ticket. -/
theorem starts (minded : Minded limits pool) (balanced : Balanced limits 0 next)
    (setup : next.limits = limits) (leaves : pool.stage? who = some (.leaving ticket))
    (parked : next.parked = pool.parked)
    (reapers : next.reapers = pool.reapers.add ticket (pool.clock + pool.limits.grace))
    (minds : ∀ other, next.minds? other = if other = who then none else pool.minds? other)
    (tickets : next.nextTicket = pool.nextTicket) (clock : next.clock = pool.clock) :
    Minded limits next := by
  have mine : pool.minds? who = some ticket := minds?_of_stage leaves
  have still {other another : Nat} (found : next.minds? other = some another) :
      other ≠ who ∧ pool.minds? other = some another := by
    rw [minds] at found
    split at found
    · contradiction
    · exact ⟨‹_›, found⟩
  have entry (other : Nat) : next.reapers.entry? other = (pool.reapers.entry? other).or
      (if other = ticket then some (pool.clock + limits.grace) else none) := by
    rw [reapers, Roster.entry_add, minded.setup]
  exact {
    balanced, setup
    reapers := reapers ▸ minded.reapers.add (minded.apart _ _ mine)
    alone := fun one other ticket found found' =>
      minded.alone one other ticket (still found).2 (still found').2
    apart := by
      intro other another found
      obtain ⟨different, found⟩ := still found
      have unlike : another ≠ ticket := by
        rintro rfl
        exact different (minded.alone _ _ _ found mine)
      rw [entry, minded.apart _ _ found, if_neg unlike]
      rfl
    drawn := fun other another found => tickets ▸ minded.drawn _ _ (still found).2
    due := by
      intro another due pending
      rw [entry] at pending
      rw [tickets, clock]
      cases before : pool.reapers.entry? another with
      | some known =>
          rw [before] at pending
          cases pending
          exact minded.due _ _ before
      | none =>
          rw [before, Option.none_or] at pending
          split at pending
          · rename_i same
            cases pending
            exact ⟨same ▸ minded.drawn _ _ mine, Nat.le_refl _⟩
          · contradiction
    shelved := by
      intro another session found
      rw [parked] at found
      rcases minded.shelved _ _ found with ⟨other, found⟩ | ⟨due, pending⟩
      · by_cases same : other = who
        · obtain rfl : another = ticket := by simpa [same, mine] using found.symm
          exact .inr ⟨_, by rw [entry, minded.apart _ _ mine, if_pos rfl]; rfl⟩
        · exact .inl ⟨other, by rw [minds, if_neg same, found]⟩
      · exact .inr ⟨due, by rw [entry, pending]; rfl⟩ }

/-- A ticket that was never drawn comes to the shelf with a borrower that minds it. -/
theorem parks (minded : Minded limits pool) (balanced : Balanced limits 0 next)
    (setup : next.limits = limits) (returned : pool.stage? who = some (.borrowing session false))
    (parked : next.parked = (pool.nextTicket, session) :: pool.parked)
    (reapers : next.reapers = pool.reapers)
    (minds : ∀ other, next.minds? other =
      if other = who then some pool.nextTicket else pool.minds? other)
    (tickets : next.nextTicket = pool.nextTicket + 1) (clock : next.clock = pool.clock) :
    Minded limits next := by
  have idle : pool.minds? who = none := minds?_of_stage returned
  have split {other ticket : Nat} (found : next.minds? other = some ticket) :
      other = who ∧ ticket = pool.nextTicket ∨
        other ≠ who ∧ pool.minds? other = some ticket := by
    rw [minds] at found
    split at found
    · exact .inl ⟨‹_›, (Option.some.inj found).symm⟩
    · exact .inr ⟨‹_›, found⟩
  have fresh : pool.reapers.entry? pool.nextTicket = none := by
    cases known : pool.reapers.entry? pool.nextTicket with
    | none => rfl
    | some due => exact absurd (minded.due _ _ known).1 (Nat.lt_irrefl _)
  exact {
    balanced, setup
    reapers := reapers ▸ minded.reapers
    alone := by
      intro one other ticket found found'
      -- Whatever was minded before is below the ticket that is drawn now.
      rcases split found with ⟨rfl, rfl⟩ | ⟨different, old⟩ <;>
        rcases split found' with ⟨rfl, same⟩ | ⟨different', old'⟩
      · rfl
      · exact absurd (minded.drawn _ _ old') (Nat.lt_irrefl _)
      · exact absurd (same ▸ minded.drawn _ _ old) (Nat.lt_irrefl _)
      · exact minded.alone _ _ _ old old'
    apart := by
      intro other ticket found
      rw [reapers]
      rcases split found with ⟨-, rfl⟩ | ⟨-, old⟩
      · exact fresh
      · exact minded.apart _ _ old
    drawn := by
      intro other ticket found
      rw [tickets]
      rcases split found with ⟨-, rfl⟩ | ⟨-, old⟩
      · exact Nat.lt_succ_self _
      · exact Nat.lt_succ_of_lt (minded.drawn _ _ old)
    due := by
      intro ticket due pending
      have ⟨below, soon⟩ := minded.due ticket due (reapers ▸ pending)
      rw [tickets, clock]
      exact ⟨Nat.lt_succ_of_lt below, soon⟩
    shelved := by
      intro ticket other found
      rw [reapers]
      rw [parked, Roster.entry_cons] at found
      split at found
      · rename_i newest
        exact .inl ⟨who, by rw [minds, if_pos rfl, newest]⟩
      · rcases minded.shelved _ _ found with ⟨other, old⟩ | pending
        · have different : other ≠ who := by
            rintro rfl
            simp [idle] at old
          exact .inl ⟨other, by rw [minds, if_neg different, old]⟩
        · exact .inr pending }

/-- Nobody comes to mind a ticket and no reaper is started; whatever is on the
shelf still keeps the one that minds it. -/
theorem fewer (minded : Minded limits pool) (balanced : Balanced limits 0 next)
    (setup : next.limits = limits) (reapers : next.reapers.Distinct)
    (minds : ∀ other ticket, next.minds? other = some ticket → pool.minds? other = some ticket)
    (pending : ∀ ticket due, next.reapers.entry? ticket = some due →
      pool.reapers.entry? ticket = some due)
    (tickets : next.nextTicket = pool.nextTicket) (clock : pool.clock ≤ next.clock)
    (parked : ∀ ticket session, next.parked.entry? ticket = some session →
      pool.parked.entry? ticket = some session ∧
        (∀ other, pool.minds? other = some ticket → next.minds? other = some ticket) ∧
        next.reapers.entry? ticket = pool.reapers.entry? ticket) :
    Minded limits next where
  balanced := balanced
  setup := setup
  reapers := reapers
  alone one other ticket found found' :=
    minded.alone one other ticket (minds _ _ found) (minds _ _ found')
  apart other ticket found := by
    have none := minded.apart _ _ (minds _ _ found)
    cases known : next.reapers.entry? ticket with
    | none => rfl
    | some due => exact absurd (none.symm.trans (pending _ _ known)) (by simp)
  drawn other ticket found := tickets ▸ minded.drawn _ _ (minds _ _ found)
  due ticket due known := by
    have ⟨below, soon⟩ := minded.due _ _ (pending _ _ known)
    exact ⟨tickets ▸ below, by omega⟩
  shelved ticket session found := by
    obtain ⟨before, guards, same⟩ := parked _ _ found
    rw [same]
    exact (minded.shelved _ _ before).imp_left fun ⟨other, found⟩ => ⟨other, guards _ found⟩

theorem step (minded : Minded limits pool) (stepped : pool.step? action = some next) :
    Minded limits next := by
  have balanced : Balanced limits 0 next := minded.balanced.step stepped
  have setup : next.limits = limits :=
    ((changes_of_step stepped).leavesAlone minded.balanced.borrowers).2.1.trans minded.setup
  cases tends_of_step minded.balanced stepped with
  | keeps parked reapers minds tickets clock =>
      refine minded.fewer balanced setup (reapers ▸ minded.reapers) ?_ ?_ tickets clock ?_
      · simp [minds]
      · simp [reapers]
      · exact fun ticket session found => ⟨parked _ _ found, by simp [minds], by rw [reapers]⟩
  | parks returned parked reapers minds tickets clock =>
      exact minded.parks balanced setup returned parked reapers minds tickets clock
  | starts leaves parked reapers minds tickets clock =>
      exact minded.starts balanced setup leaves parked reapers minds tickets clock
  | @takesBack who ticket leaves parked reapers minds tickets clock =>
      have mine : pool.minds? who = some ticket := minds?_of_stage leaves
      refine minded.fewer balanced setup (reapers ▸ minded.reapers) ?_ ?_ tickets
        (Nat.le_of_eq clock.symm) ?_
      · intro other another found
        rw [minds] at found
        split at found
        · contradiction
        · exact found
      · simp [reapers]
      · intro another session found
        rw [parked] at found
        split at found
        · contradiction
        · rename_i unlike
          refine ⟨found, fun other old => ?_, by rw [reapers]⟩
          have different : other ≠ who := by
            rintro rfl
            exact unlike (by simpa [mine] using old.symm)
          rw [minds, if_neg different, old]
  | @reaps ticket due pending overdue parked reapers minds tickets clock =>
      refine minded.fewer balanced setup (reapers ▸ minded.reapers.remove) ?_ ?_ tickets
        (Nat.le_of_eq clock.symm) ?_
      · simp [minds]
      · intro another due found
        rw [reapers, Roster.entry_remove] at found
        split at found
        · contradiction
        · exact found
      · intro another session found
        rw [parked] at found
        split at found
        · contradiction
        · rename_i unlike
          exact ⟨found, by simp [minds], by rw [reapers, Roster.entry_remove, if_neg unlike]⟩

theorem run {actions : List Action} (minded : Minded limits pool)
    (ran : pool.run? actions = some next) : Minded limits next := by
  induction actions generalizing pool with
  | nil =>
      cases ran
      exact minded
  | cons action actions ih =>
      rw [run?, List.foldlM_cons] at ran
      obtain ⟨middle, stepped, rest⟩ := Option.bind_eq_some_iff.mp ran
      exact ih (minded.step stepped) rest

end Minded

/-- A return in a run: what came before it, the pool it came to, whose it was and
what has come since. -/
structure Parking where
  before : List Action
  origin : Pool
  who : Nat
  later : List Action

namespace Parking

variable {parking : Parking}

/-- The whole run. -/
def actions (parking : Parking) : List Action :=
  parking.before ++ .giveBack parking.who :: parking.later

/-- The same return one action later. -/
def extend (parking : Parking) (action : Action) : Parking :=
  { parking with later := parking.later ++ [action] }

/-- The return parked a session under a ticket, where it has stayed ever since. -/
structure Holds (limits : Limits) (parking : Parking) (ticket : Nat) (session : Session) :
    Prop where
  ran : (start limits).run? parking.before = some parking.origin
  returned : parking.origin.stage? parking.who = some (.borrowing session false)
  drawn : parking.origin.nextTicket = ticket
  stays : ∀ front middle, front <+: parking.later →
    parking.origin.run? (.giveBack parking.who :: front) = some middle →
      middle.parked.entry? ticket = some session

/-- The guard of the return started a reaper for a ticket, which is due when the
grace is over. -/
def Started (limits : Limits) (parking : Parking) (ticket due : Nat) : Prop :=
  ∃ front middle back, parking.later = front ++ .startReaper parking.who :: back ∧
    parking.origin.run? (.giveBack parking.who :: front) = some middle ∧
    middle.stage? parking.who = some (.leaving ticket) ∧
    parking.origin.clock ≤ middle.clock ∧ due = middle.clock + limits.grace

theorem actions_extend : (parking.extend action).actions = parking.actions ++ [action] := by
  simp [actions, extend]

theorem Started.extend (started : parking.Started limits ticket due) :
    (parking.extend action).Started limits ticket due := by
  obtain ⟨front, middle, back, split, rest⟩ := started
  exact ⟨front, middle, back ++ [action], by simp [Parking.extend, split], rest⟩

end Parking

theorem run?_concat {actions : List Action} :
    pool.run? (actions ++ [action]) = (pool.run? actions).bind (·.step? action) := by
  rw [run?, List.foldlM_append]
  refine congrArg (Option.bind _) (funext fun middle => ?_)
  exact bind_pure (middle.step? action)

namespace Parking

variable {parking older newer : Parking}

theorem Holds.extend (holds : parking.Holds limits ticket session)
    (ran : parking.origin.run? (.giveBack parking.who :: parking.later) = some pool)
    (stepped : pool.step? action = some next) (found : next.parked.entry? ticket = some session) :
    (parking.extend action).Holds limits ticket session where
  ran := holds.ran
  returned := holds.returned
  drawn := holds.drawn
  stays front middle start reached := by
    rcases List.prefix_concat_iff.mp start with rfl | start
    · have whole : pool.step? action = some middle := by
        rw [← List.cons_append, run?_concat] at reached
        simpa [Parking.extend, ran] using reached
      obtain rfl : next = middle := Option.some.inj (stepped.symm.trans whole)
      exact found
    · exact holds.stays front middle start reached

/-- Where a parked session comes from, and who minds it. -/
structure Explains (limits : Limits) (parking : Parking) (actions : List Action) (pool : Pool)
    (ticket : Nat) (session : Session) : Prop where
  actions : parking.actions = actions
  holds : parking.Holds limits ticket session
  ran : parking.origin.run? (.giveBack parking.who :: parking.later) = some pool
  clock : parking.origin.clock ≤ pool.clock
  minded : pool.minds? parking.who = some ticket ∨
    ∃ due, pool.reapers.entry? ticket = some due ∧ parking.Started limits ticket due

/-- A return explains what it has parked for one more step, if that is parked
still and minded. -/
theorem Explains.extend {actions : List Action}
    (explains : parking.Explains limits actions pool ticket session)
    (stepped : pool.step? action = some next) (clock : pool.clock ≤ next.clock)
    (found : next.parked.entry? ticket = some session)
    (minds : pool.minds? parking.who = some ticket → next.minds? parking.who = some ticket ∨
      ∃ due, next.reapers.entry? ticket = some due ∧
        (parking.extend action).Started limits ticket due)
    (keeps : ∀ due, pool.reapers.entry? ticket = some due →
      next.reapers.entry? ticket = some due) :
    (parking.extend action).Explains limits (actions ++ [action]) next ticket session where
  actions := by rw [actions_extend, explains.actions]
  holds := explains.holds.extend explains.ran stepped found
  ran := by
    have whole := explains.ran
    change parking.origin.run? (.giveBack parking.who :: (parking.later ++ [action])) = some next
    rw [← List.cons_append, run?_concat, whole]
    exact stepped
  clock := Nat.le_trans explains.clock clock
  minded := by
    rcases explains.minded with mine | ⟨due, pending, started⟩
    · exact minds mine
    · exact .inr ⟨due, keeps due pending, started.extend⟩

end Parking

/-- Whatever is parked was parked by one return, which is still behind it. -/
theorem parking_of_run {actions : List Action} (ran : (start limits).run? actions = some pool)
    (found : pool.parked.entry? ticket = some session) :
    ∃ parking : Parking, parking.Explains limits actions pool ticket session := by
  -- From the end of the run: a return that parks is its own explanation, and any other
  -- step leaves what explains a session that is parked still.
  induction actions using List.reverseRecOn generalizing pool with
  | nil =>
      cases ran
      simp [start] at found
  | append_singleton actions action ih =>
      rw [run?_concat] at ran
      obtain ⟨middle, reached, stepped⟩ := Option.bind_eq_some_iff.mp ran
      have minded := (start_minded limits).run reached
      cases tends_of_step minded.balanced stepped with
      | keeps parked reapers minds tickets clock =>
          obtain ⟨parking, explains⟩ := ih reached (parked _ _ found)
          refine ⟨_, explains.extend stepped clock found ?_ (by simp [reapers])⟩
          exact fun mine => .inl (by rw [minds, mine])
      | @parks who returnedSession returned parked reapers minds tickets clock =>
          have still := found
          rw [parked, Roster.entry_cons] at found
          split at found
          · rename_i newest
            cases found
            have drawn : middle.nextTicket = ticket := newest.symm
            have once : middle.run? ([] ++ [.giveBack who]) = some pool := run?_concat.trans stepped
            refine ⟨⟨actions, middle, who, []⟩, rfl, ⟨reached, returned, drawn, ?_⟩, once,
              Nat.le_of_eq clock.symm, .inl ?_⟩
            · intro front later start ran
              obtain rfl := List.prefix_nil.mp start
              obtain rfl : pool = later := Option.some.inj (once.symm.trans ran)
              exact still
            · rw [minds, if_pos rfl, drawn]
          · obtain ⟨parking, explains⟩ := ih reached found
            refine ⟨_, explains.extend stepped (Nat.le_of_eq clock.symm) still (fun mine => ?_)
              (by simp [reapers])⟩
            have apart : parking.who ≠ who := by
              intro same
              rw [same, minds?_of_stage returned] at mine
              contradiction
            exact .inl (by rw [minds, if_neg apart, mine])
      | @starts who started leaves parked reapers minds tickets clock =>
          have still := found
          rw [parked] at found
          obtain ⟨parking, explains⟩ := ih reached found
          refine ⟨_, explains.extend stepped (Nat.le_of_eq clock.symm) still ?_ ?_⟩
          · intro mine
            by_cases same : parking.who = who
            · obtain rfl : started = ticket := by
                rw [same, minds?_of_stage leaves] at mine
                exact Option.some.inj mine
              refine .inr ⟨middle.clock + limits.grace, ?_, ?_⟩
              · rw [reapers, Roster.entry_add, minded.apart _ _ mine, if_pos rfl, minded.setup]
                rfl
              · exact ⟨parking.later, middle, [], by simp [Parking.extend, same], explains.ran,
                  by simpa [Parking.extend, same] using leaves, explains.clock, rfl⟩
            · exact .inl (by rw [minds, if_neg same, mine])
          · intro due pending
            simp [reapers, Roster.entry_add, pending]
      | @takesBack who taken leaves parked reapers minds tickets clock =>
          have still := found
          rw [parked] at found
          split at found
          · contradiction
          · rename_i unlike
            obtain ⟨parking, explains⟩ := ih reached found
            refine ⟨_, explains.extend stepped (Nat.le_of_eq clock.symm) still (fun mine => ?_)
              (by simp [reapers])⟩
            have apart : parking.who ≠ who := by
              intro same
              rw [same, minds?_of_stage leaves] at mine
              exact unlike (Option.some.inj mine).symm
            exact .inl (by rw [minds, if_neg apart, mine])
      | @reaps reaped due pending overdue parked reapers minds tickets clock =>
          have still := found
          rw [parked] at found
          split at found
          · contradiction
          · rename_i unlike
            obtain ⟨parking, explains⟩ := ih reached found
            refine ⟨_, explains.extend stepped (Nat.le_of_eq clock.symm) still ?_ ?_⟩
            · exact fun mine => .inl (by rw [minds, mine])
            · intro due pending
              rw [reapers, Roster.entry_remove, if_neg unlike, pending]

theorem nextTicket_le_of_step (balanced : Balanced limits 0 pool)
    (stepped : pool.step? action = some next) : pool.nextTicket ≤ next.nextTicket := by
  cases tends_of_step balanced stepped with
  | keeps _ _ _ tickets => exact Nat.le_of_eq tickets.symm
  | parks _ _ _ _ tickets => exact tickets ▸ Nat.le_succ _
  | starts _ _ _ _ tickets => exact Nat.le_of_eq tickets.symm
  | takesBack _ _ _ _ tickets => exact Nat.le_of_eq tickets.symm
  | reaps _ _ _ _ _ tickets => exact Nat.le_of_eq tickets.symm

theorem nextTicket_le_of_run {actions : List Action} (balanced : Balanced limits 0 pool)
    (ran : pool.run? actions = some next) : pool.nextTicket ≤ next.nextTicket := by
  induction actions generalizing pool with
  | nil =>
      cases ran
      exact Nat.le_refl _
  | cons action actions ih =>
      rw [run?, List.foldlM_cons] at ran
      obtain ⟨middle, stepped, rest⟩ := Option.bind_eq_some_iff.mp ran
      exact Nat.le_trans (nextTicket_le_of_step balanced stepped) (ih (balanced.step stepped) rest)

namespace Parking

variable {parking older newer : Parking} {olderTicket newerTicket : Nat}
  {olderSession newerSession : Session} {actions : List Action}

/-- The pool right after the return has drawn the ticket. -/
theorem Explains.drawn (explains : parking.Explains limits actions pool ticket session) :
    ∃ first, parking.origin.step? (.giveBack parking.who) = some first ∧
      first.nextTicket = ticket + 1 ∧ first.run? parking.later = some pool := by
  have holds := explains.holds
  have balanced := (start_balanced limits).run holds.ran
  have ran := explains.ran
  rw [run?, List.foldlM_cons] at ran
  obtain ⟨first, stepped, rest⟩ := Option.bind_eq_some_iff.mp ran
  have once : parking.origin.run? ([] ++ [.giveBack parking.who]) = some first :=
    run?_concat.trans stepped
  have found := holds.stays [] first (List.nil_prefix) once
  refine ⟨first, stepped, ?_, rest⟩
  cases tends_of_step balanced stepped with
  | keeps parked =>
      -- A ticket that was on the shelf already had been drawn before.
      have below := balanced.tickets_lt ticket
        (List.mem_map_of_mem (Roster.mem_of_entry (parked _ _ found)))
      rw [holds.drawn] at below
      exact absurd below (Nat.lt_irrefl _)
  | parks _ _ _ _ tickets => rw [tickets, holds.drawn]

/-- What was returned earlier has the lower ticket. -/
theorem Explains.lt (explains : older.Explains limits actions pool olderTicket olderSession)
    (explains' : newer.Explains limits actions pool newerTicket newerSession)
    (earlier : older.before.length < newer.before.length) : olderTicket < newerTicket := by
  obtain ⟨first, stepped, drawn, -⟩ := explains.drawn
  have same : older.actions = newer.actions := explains.actions.trans explains'.actions.symm
  -- the older return is among what came before the newer one
  obtain ⟨between, split⟩ : older.before ++ [.giveBack older.who] <+: newer.before := by
    have whole : older.before ++ [.giveBack older.who] <+: newer.actions := by
      rw [← same]
      exact ⟨older.later, by simp [Parking.actions]⟩
    exact List.prefix_of_prefix_length_le whole (List.prefix_append _ _)
      (by rwa [List.length_append, List.length_singleton])
  have after : (start limits).run? (older.before ++ [.giveBack older.who]) = some first := by
    rw [run?_concat, explains.holds.ran]
    exact stepped
  have rest : first.run? between = some newer.origin := by
    have whole := explains'.holds.ran
    rw [← split, run?, List.foldlM_append] at whole
    obtain ⟨first', ran, rest⟩ := Option.bind_eq_some_iff.mp whole
    obtain rfl : first = first' := Option.some.inj (after.symm.trans ran)
    exact rest
  have grows := nextTicket_le_of_run ((start_balanced limits).run after) rest
  rw [drawn, explains'.holds.drawn] at grows
  exact grows

theorem Explains.lt_iff (explains : older.Explains limits actions pool olderTicket olderSession)
    (explains' : newer.Explains limits actions pool newerTicket newerSession) :
    olderTicket < newerTicket ↔ older.before.length < newer.before.length := by
  refine ⟨fun below => ?_, explains.lt explains'⟩
  rcases Nat.lt_trichotomy older.before.length newer.before.length with earlier | same | later
  · exact earlier
  · have whole : older.actions = newer.actions := explains.actions.trans explains'.actions.symm
    have before : older.before = newer.before := (List.append_inj whole same).1
    have origin : older.origin = newer.origin :=
      Option.some.inj (explains.holds.ran.symm.trans (before ▸ explains'.holds.ran))
    rw [← explains.holds.drawn, ← explains'.holds.drawn, origin] at below
    exact absurd below (Nat.lt_irrefl _)
  · exact absurd (explains'.lt explains later) (Nat.lt_asymm below)

end Parking

/-- The timers that are out run out, in any order. -/
theorem run_reapers {order : List Nat} (minded : Minded limits pool)
    (overdue : ∀ ticket due, pool.reapers.entry? ticket = some due → due ≤ pool.clock)
    (all : order.Perm (pool.reapers.map (·.1))) :
    ∃ next, pool.run? (order.map .reap) = some next ∧ next.reapers = [] ∧
      next.borrowers = pool.borrowers := by
  -- The reaper that fires first takes itself off, and the others are as overdue as before.
  induction order generalizing pool with
  | nil => exact ⟨pool, rfl, List.map_eq_nil_iff.mp all.nil_eq.symm, rfl⟩
  | cons ticket order ih =>
      obtain ⟨⟨_, due⟩, member, rfl⟩ := List.mem_map.mp (all.subset List.mem_cons_self)
      rename_i ticket
      have pending : pool.reapers.entry? ticket = some due := minded.reapers.entry_of_mem member
      have reaped : pool.step? (.reap ticket) =
          some ({ pool with reapers := pool.reapers.remove ticket }.closeParked ticket) := by
        simp only [step?, reap?, pending, if_pos (overdue _ _ pending)]
      obtain ⟨reapers, -, clock, borrowers⟩ :=
        rest_closeParked { pool with reapers := pool.reapers.remove ticket } ticket
      obtain ⟨next, ran, empty, same⟩ := ih (minded.step reaped) (by
        intro other due found
        rw [reapers, Roster.entry_remove] at found
        split at found
        · contradiction
        · exact Nat.le_trans (overdue _ _ found) (Nat.le_of_eq clock.symm)) (by
        rw [reapers]
        exact (all.trans ((minded.reapers.perm_cons_remove pending).map _)).cons_inv)
      refine ⟨next, ?_, empty, same.trans borrowers⟩
      rw [List.map_cons, run?, List.foldlM_cons]
      exact Option.bind_eq_some_iff.mpr ⟨_, reaped, ran⟩

/-- How the parked sessions of a pool stand after a run, and what becomes of
them. -/
structure Reaped (limits : Limits) (actions : List Action) (pool : Pool) : Prop where
  /-- The newest session is parked first. -/
  ordered : (pool.parked.map (·.1)).Pairwise (· > ·)
  below : ∀ ticket ∈ pool.parked.map (·.1), ticket < pool.nextTicket
  /-- Every parked session has one reaper, or its guard is about to start it. -/
  minded : ∀ ticket ∈ pool.parked.map (·.1),
    (pool.reapers.map (·.1)).count ticket = 1 ∧ (∀ who, pool.minds? who ≠ some ticket) ∨
    (pool.reapers.map (·.1)).count ticket = 0 ∧ ∃! who, pool.minds? who = some ticket
  /-- Every parked session was parked by a return and has stayed so. -/
  returned : ∀ ticket session, pool.parked.entry? ticket = some session →
    ∃ parking : Parking, parking.Explains limits actions pool ticket session
  /-- Tickets are in the order of those returns. -/
  inTurn : ∀ (older newer : Parking) olderTicket newerTicket olderSession newerSession,
    older.Explains limits actions pool olderTicket olderSession →
    newer.Explains limits actions pool newerTicket newerSession →
    (olderTicket < newerTicket ↔ older.before.length < newer.before.length)
  /-- Whoever looks gets the session that was parked last, if there is one. -/
  look : ∀ who next, pool.step? (.look who) = some next →
    pool.parked = [] ∧ next.stage? who = some .connecting ∨
    ∃ ticket session, pool.parked = (ticket, session) :: next.parked ∧
      (∀ other ∈ next.parked.map (·.1), other < ticket) ∧
      next.stage? who = some (.borrowing session false)
  /-- A reaper closes nothing, or the session that has been parked for the whole
  grace since the return that started it. -/
  reap : ∀ ticket next, pool.step? (.reap ticket) = some next →
    pool.parked.entry? ticket = none ∧ next.parked = pool.parked ∧ next.closed = pool.closed ∨
    ∃ session due, ∃ parking : Parking, pool.parked.entry? ticket = some session ∧
      parking.Explains limits actions pool ticket session ∧
      parking.Started limits ticket due ∧ due ≤ pool.clock ∧
      parking.origin.clock + limits.grace ≤ pool.clock ∧
      next.closed = pool.closed ++ [session.serial]
  /-- It leaves what is in hands alone, and every other parking to the reaper of
  that one. -/
  leaves : ∀ ticket next, pool.step? (.reap ticket) = some next →
    next.borrowers = pool.borrowers ∧
    ∀ other, other ≠ ticket →
      next.reapers.entry? other = pool.reapers.entry? other ∧
      next.parked.entry? other = pool.parked.entry? other ∧
      ∀ session, pool.parked.entry? other = some session → session.serial ∉ next.closed
  /-- Once no reaper is out or about to be started, nothing is parked. -/
  clears : pool.reapers = [] → (∀ who, pool.minds? who = none) → pool.parked = []
  /-- When the grace is over, the reapers that are out can all do their work. -/
  runsOut : (∀ who, pool.minds? who = none) → ∀ (milliseconds : Nat) (order : List Nat),
    limits.grace ≤ milliseconds → order.Perm (pool.reapers.map (·.1)) →
      ∃ next, pool.run? (.elapse milliseconds :: order.map .reap) = some next ∧
        next.reapers = [] ∧ next.parked = []

theorem Minded.parked_nil (minded : Minded limits pool) (empty : pool.reapers = [])
    (nobody : ∀ who, pool.minds? who = none) : pool.parked = [] := by
  refine List.eq_nil_iff_forall_not_mem.mpr fun parked member => ?_
  have found := minded.balanced.parkedDistinct.entry_of_mem member
  rcases minded.shelved _ _ found with ⟨who, minds⟩ | ⟨due, pending⟩
  · rw [nobody] at minds
    contradiction
  · simp [empty] at pending

theorem Balanced.not_closed (balanced : Balanced limits 0 pool)
    (member : (ticket, session) ∈ pool.parked) : session.serial ∉ pool.closed := by
  have parked : pool.hasParked session.serial = true :=
    List.any_eq_true.mpr ⟨_, member, decide_eq_true rfl⟩
  simpa [hasClosed] using balanced.parked_or_closed parked

theorem count_reapers (distinct : pool.reapers.Distinct)
    (pending : pool.reapers.entry? ticket = some due) :
    (pool.reapers.map (·.1)).count ticket = 1 := by
  refine Nat.le_antisymm (List.nodup_iff_count_le_one.mp distinct ticket) ?_
  exact List.count_pos_iff.mpr (List.mem_map_of_mem (Roster.mem_of_entry pending))

theorem Minded.once (minded : Minded limits pool) (listed : ticket ∈ pool.parked.map (·.1)) :
    (pool.reapers.map (·.1)).count ticket = 1 ∧ (∀ who, pool.minds? who ≠ some ticket) ∨
      (pool.reapers.map (·.1)).count ticket = 0 ∧ ∃! who, pool.minds? who = some ticket := by
  obtain ⟨⟨_, session⟩, member, rfl⟩ := List.mem_map.mp listed
  have found := minded.balanced.parkedDistinct.entry_of_mem member
  rcases minded.shelved _ _ found with ⟨who, minds⟩ | ⟨due, pending⟩
  · refine .inr ⟨List.count_eq_zero.mpr ?_, who, minds, ?_⟩
    · exact Roster.not_mem_of_entry_none (minded.apart _ _ minds)
    · exact fun other also => minded.alone _ _ _ also minds
  · refine .inl ⟨count_reapers minded.reapers pending, fun who minds => ?_⟩
    rw [minded.apart _ _ minds] at pending
    contradiction

theorem look_newest (balanced : Balanced limits 0 pool)
    (looked : pool.step? (.look who) = some next) :
    pool.parked = [] ∧ next.stage? who = some .connecting ∨
    ∃ ticket session, pool.parked = (ticket, session) :: next.parked ∧
      (∀ other ∈ next.parked.map (·.1), other < ticket) ∧
      next.stage? who = some (.borrowing session false) := by
  change pool.look? who = some next at looked
  unfold look? at looked
  split at looked
  · rename_i ticket session rest admitted shelf
    cases looked
    refine .inr ⟨ticket, session, shelf, ?_, stage?_moveTo_self admitted _⟩
    have tickets := balanced.tickets
    rw [shelf, List.map_cons, List.pairwise_cons] at tickets
    exact tickets.1
  · rename_i admitted shelf
    cases looked
    exact .inl ⟨shelf, stage?_moveTo_self admitted _⟩
  · contradiction

theorem reap_inv (reaped : pool.step? (.reap ticket) = some next) :
    ∃ due, pool.reapers.entry? ticket = some due ∧ due ≤ pool.clock ∧
      next = { pool with reapers := pool.reapers.remove ticket }.closeParked ticket := by
  change pool.reap? ticket = some next at reaped
  unfold reap? at reaped
  split at reaped
  · rename_i due pending
    split at reaped
    · rename_i overdue
      cases reaped
      exact ⟨due, pending, overdue, rfl⟩
    · contradiction
  · contradiction

/-- What a reaper closes was left to it by the return that started it. -/
theorem reap_explained {actions : List Action} (ran : (start limits).run? actions = some pool)
    (reaped : pool.step? (.reap ticket) = some next) :
    pool.parked.entry? ticket = none ∧ next.parked = pool.parked ∧ next.closed = pool.closed ∨
    ∃ session due, ∃ parking : Parking, pool.parked.entry? ticket = some session ∧
      parking.Explains limits actions pool ticket session ∧
      parking.Started limits ticket due ∧ due ≤ pool.clock ∧
      parking.origin.clock + limits.grace ≤ pool.clock ∧
      next.closed = pool.closed ++ [session.serial] := by
  have minded := (start_minded limits).run ran
  obtain ⟨due, pending, overdue, rfl⟩ := reap_inv reaped
  cases found : pool.parked.entry? ticket with
  | none => exact .inl ⟨rfl, by simp [closeParked, found], by simp [closeParked, found]⟩
  | some session =>
      obtain ⟨parking, explains⟩ := parking_of_run ran found
      have started : parking.Started limits ticket due := by
        rcases explains.minded with minds | ⟨known, same, started⟩
        · rw [minded.apart _ _ minds] at pending
          contradiction
        · obtain rfl : due = known := Option.some.inj (pending.symm.trans same)
          exact started
      have long : parking.origin.clock + limits.grace ≤ pool.clock := by
        obtain ⟨_, middle, _, _, _, _, clock, rfl⟩ := started
        omega
      exact .inr ⟨session, due, parking, rfl, explains, started, overdue, long,
        by simp [closeParked, found, Pool.close]⟩

theorem reap_leaves (balanced : Balanced limits 0 pool)
    (reaped : pool.step? (.reap ticket) = some next) (different : other ≠ ticket) :
    next.reapers.entry? other = pool.reapers.entry? other ∧
      next.parked.entry? other = pool.parked.entry? other ∧
      ∀ session, pool.parked.entry? other = some session → session.serial ∉ next.closed := by
  have after := balanced.step reaped
  obtain ⟨due, -, -, rfl⟩ := reap_inv reaped
  have still : (closeParked { pool with reapers := pool.reapers.remove ticket }
      ticket).parked.entry? other = pool.parked.entry? other := by
    rw [entry?_closeParked, if_neg different]
  refine ⟨?_, still, fun session found => ?_⟩
  · rw [(rest_closeParked _ _).1, Roster.entry_remove, if_neg different]
  · exact after.not_closed (Roster.mem_of_entry (still.trans found))

theorem Minded.runsOut {milliseconds : Nat} {order : List Nat} (minded : Minded limits pool)
    (nobody : ∀ who, pool.minds? who = none) (grace : limits.grace ≤ milliseconds)
    (all : order.Perm (pool.reapers.map (·.1))) :
    ∃ next, pool.run? (.elapse milliseconds :: order.map .reap) = some next ∧
      next.reapers = [] ∧ next.parked = [] := by
  have elapsed : pool.step? (.elapse milliseconds) =
      some { pool with clock := pool.clock + milliseconds } := rfl
  have waited := minded.step elapsed
  obtain ⟨next, fired, empty, borrowers⟩ := run_reapers waited (fun ticket due pending => by
    have soon : due ≤ pool.clock + limits.grace := (minded.due ticket due pending).2
    change due ≤ pool.clock + milliseconds
    omega) all
  refine ⟨next, fired, empty, (waited.run fired).parked_nil empty fun who => ?_⟩
  rw [minds?, stage?, borrowers]
  exact nobody who

/-- Whatever borrowers do and whenever timers fire, a session is parked under a
ticket of its own with one reaper to come, which finds it only as it was left by
the return that started that reaper. -/
theorem run_reaped {actions : List Action} (ran : (start limits).run? actions = some pool) :
    Reaped limits actions pool := by
  have minded := (start_minded limits).run ran
  have balanced := minded.balanced
  exact {
    ordered := balanced.tickets
    below := balanced.tickets_lt
    minded := fun ticket listed => minded.once listed
    returned := fun ticket session found => parking_of_run ran found
    inTurn := fun _ _ _ _ _ _ explains explains' => explains.lt_iff explains'
    look := fun who next looked => look_newest balanced looked
    reap := fun ticket next reaped => reap_explained ran reaped
    leaves := by
      intro ticket next reaped
      refine ⟨?_, fun other different => reap_leaves balanced reaped different⟩
      obtain ⟨due, -, -, rfl⟩ := reap_inv reaped
      exact (rest_closeParked _ _).2.2.2
    clears := minded.parked_nil
    runsOut := fun nobody milliseconds order grace all => minded.runsOut nobody grace all }

/-- One session is parked, borrowed and parked again.  Its first reaper is due and
leaves it to the second one, which closes it when the second grace is over. -/
theorem parkedTwice_reaped :
    ∃ pool, (start ⟨1, 1000, 1000, 50⟩).run?
        [.arrive 0, .look 0, .connected 0, .giveBack 0, .freeSlot 0, .startReaper 0, .elapse 30,
          .arrive 1, .look 1, .giveBack 1, .freeSlot 1, .startReaper 1, .elapse 30, .reap 0] =
          some pool ∧
      pool.parked = [(1, ⟨0, 0⟩)] ∧ pool.reapers = [(1, 80)] ∧ pool.clock = 60 ∧
      Reaped ⟨1, 1000, 1000, 50⟩
        [.arrive 0, .look 0, .connected 0, .giveBack 0, .freeSlot 0, .startReaper 0, .elapse 30,
          .arrive 1, .look 1, .giveBack 1, .freeSlot 1, .startReaper 1, .elapse 30, .reap 0]
        pool := by
  have ran : (start ⟨1, 1000, 1000, 50⟩).run?
      [.arrive 0, .look 0, .connected 0, .giveBack 0, .freeSlot 0, .startReaper 0, .elapse 30,
        .arrive 1, .look 1, .giveBack 1, .freeSlot 1, .startReaper 1, .elapse 30, .reap 0] =
        some _ := rfl
  exact ⟨_, ran, rfl, rfl, rfl, run_reaped ran⟩

end PrintConnector.Pool
