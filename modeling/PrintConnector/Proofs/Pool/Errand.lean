import PrintConnector.Proofs.Pool.Borrower

namespace PrintConnector

namespace Pool

variable {pool before middle after next : Pool} {mover : Option Nat} {who other : Nat}
  {stage : Stage}

/-- The session that a borrower has in hand. -/
def session? (pool : Pool) (who : Nat) : Option Session :=
  (pool.stage? who).bind Stage.session?

/-- How many slots a borrower holds. -/
def slotsOf (pool : Pool) (who : Nat) : Nat :=
  pool.borrowers.countP fun borrower => borrower.1 = who && borrower.2.holdsSlot

/-- Others may hand a slot to a borrower that is in line, and leave it alone
otherwise. -/
def LeavesAlone (before after : Pool) (who : Nat) : Prop :=
  after.stage? who = before.stage? who ∨
    before.stage? who = some .waiting ∧ after.stage? who = some .called

theorem LeavesAlone.trans (first : LeavesAlone before middle who)
    (second : LeavesAlone middle after who) : LeavesAlone before after who := by
  obtain same | ⟨waits, called⟩ := first
  · rwa [LeavesAlone, ← same]
  · obtain same | ⟨still, -⟩ := second
    · exact .inr ⟨waits, same.trans called⟩
    · rw [called] at still
      contradiction

theorem leavesAlone_handSlot (distinct : pool.borrowers.Distinct) (who : Nat) :
    LeavesAlone pool pool.handSlot who := by
  unfold handSlot
  split
  · rename_i first called
    have waits : pool.stage? first = some .waiting := by
      refine stage_of_firstWaiting distinct ?_
      split at called
      · exact called
      · contradiction
    rw [LeavesAlone, stage?_moveTo]
    by_cases same : who = first
    · exact .inr ⟨same ▸ waits, by rw [if_pos same, waits]; rfl⟩
    · exact .inl (if_neg same)
  · exact .inl rfl

theorem distinct_handSlot (distinct : pool.borrowers.Distinct) :
    pool.handSlot.borrowers.Distinct := by
  unfold Pool.handSlot
  split
  · exact distinct.update
  · exact distinct

theorem limits_handSlot : pool.handSlot.limits = pool.limits := by
  unfold handSlot
  split <;> rfl

/-- What a step does to the limits, and to those who do not take it. -/
theorem Changes.leavesAlone (changes : Changes mover before after)
    (distinct : before.borrowers.Distinct) :
    after.borrowers.Distinct ∧ after.limits = before.limits ∧
      ∀ other, mover ≠ some other → LeavesAlone before after other := by
  induction changes with
  | refl => exact ⟨distinct, rfl, fun _ _ => .inl rfl⟩
  | trans _ _ first second =>
      obtain ⟨distinct, limits, alone⟩ := first distinct
      obtain ⟨distinct, limits', alone'⟩ := second distinct
      exact ⟨distinct, limits'.trans limits, fun other apart =>
        (alone other apart).trans (alone' other apart)⟩
  | @moveTo _ who _ mine =>
      refine ⟨distinct.update, rfl, fun other apart => .inl ?_⟩
      have different : other ≠ who := fun same => apart (same ▸ mine)
      rw [stage?_moveTo, if_neg different]
  | @dismiss _ who mine =>
      refine ⟨distinct.remove, rfl, fun other apart => .inl ?_⟩
      have different : other ≠ who := fun same => apart (same ▸ mine)
      rw [stage?_dismiss, if_neg different]
  | @enter _ who _ _ mine absent =>
      refine ⟨distinct.add absent, rfl, fun other apart => .inl ?_⟩
      have different : other ≠ who := fun same => apart (same ▸ mine)
      refine Roster.entry_add.trans ?_
      rw [if_neg different, Option.or_none]
      rfl
  | handSlot =>
      exact ⟨distinct_handSlot distinct, limits_handSlot, fun other _ =>
        leavesAlone_handSlot distinct other⟩
  | rest borrowers limits =>
      refine ⟨borrowers ▸ distinct, limits, fun _ _ => .inl ?_⟩
      rw [stage?, stage?, borrowers]

theorem Turns.limits (turns : Turns mover pool next) (distinct : pool.borrowers.Distinct) :
    next.limits = pool.limits := by
  cases turns with
  | idle => rfl
  | step stepped => exact ((changes_of_step stepped).leavesAlone distinct).2.1

theorem Turns.leavesAlone (turns : Turns mover pool next) (distinct : pool.borrowers.Distinct)
    (apart : mover ≠ some who) : LeavesAlone pool next who := by
  cases turns with
  | idle => exact .inl rfl
  | step stepped mine =>
      obtain ⟨-, -, alone⟩ := (changes_of_step stepped).leavesAlone distinct
      exact alone who fun borrower => apart (mine who borrower)

theorem limits_of_run {limits : Limits} {actions : List Action} (distinct : pool.borrowers.Distinct)
    (setup : pool.limits = limits) (ran : pool.run? actions = some next) :
    next.limits = limits := by
  induction actions generalizing pool with
  | nil =>
      cases ran
      exact setup
  | cons action actions ih =>
      rw [run?, List.foldlM_cons] at ran
      obtain ⟨middle, stepped, rest⟩ := Option.bind_eq_some_iff.mp ran
      obtain ⟨distinct, same, -⟩ := (changes_of_step stepped).leavesAlone distinct
      exact ih distinct (same.trans setup) rest

theorem slotsOf_le (distinct : pool.borrowers.Distinct) (who : Nat) : pool.slotsOf who ≤ 1 := by
  have once : (pool.borrowers.map (·.1)).count who ≤ 1 :=
    List.nodup_iff_count_le_one.mp distinct who
  rw [List.count, List.countP_map] at once
  refine Nat.le_trans (List.countP_mono_left ?_) once
  intro borrower _ holds
  rw [Bool.and_eq_true, decide_eq_true_iff] at holds
  simp [holds.1]

theorem slotsOf_absent (absent : pool.stage? who = none) : pool.slotsOf who = 0 := by
  refine List.countP_eq_zero.mpr fun borrower member holds => ?_
  rw [Bool.and_eq_true, decide_eq_true_iff] at holds
  exact Roster.not_mem_of_entry_none absent (holds.1 ▸ List.mem_map_of_mem member)

theorem stage?_handSlot (distinct : pool.borrowers.Distinct)
    (apart : pool.stage? who ≠ some .waiting) : pool.handSlot.stage? who = pool.stage? who :=
  (leavesAlone_handSlot distinct who).resolve_right fun waits => apart waits.1

def hasParked (pool : Pool) (serial : Nat) : Bool :=
  pool.parked.any fun parked => parked.2.serial = serial

def hasClosed (pool : Pool) (serial : Nat) : Bool :=
  pool.closed.contains serial

/-- No session is both parked and closed. -/
theorem Balanced.parked_or_closed {limits : Limits} {serial : Nat}
    (balanced : Balanced limits 0 pool) (parked : pool.hasParked serial = true) :
    pool.hasClosed serial = false := by
  have places := balanced.places serial
  have shelved : 0 < pool.onShelf serial := by
    obtain ⟨entry, member, same⟩ := List.any_eq_true.mp parked
    exact List.countP_pos_iff.mpr ⟨entry, member, same⟩
  have absent : pool.closed.count serial = 0 := by
    split at places <;> omega
  simpa [hasClosed] using List.count_eq_zero.mp absent

/-- A session that is given back is parked, or it is closed. -/
theorem Balanced.returned {limits : Limits} {session : Session} {broken : Bool}
    (balanced : Balanced limits 0 pool) (found : pool.stage? who = some (.borrowing session broken))
    (gave : pool.giveBack? who = some next) :
    (next.stage? who = some .emptied ∨ ∃ ticket, next.stage? who = some (.parked ticket)) ∧
      next.hasParked session.serial = (!pool.isSealed && !broken) ∧
      next.hasClosed session.serial = !next.hasParked session.serial := by
  have after : Balanced limits 0 next := balanced.giveBack gave
  simp only [giveBack?, found] at gave
  split at gave
  · rename_i closes
    cases gave
    have closed : ((pool.close session).moveTo who .emptied).hasClosed session.serial = true := by
      simp [hasClosed, Pool.close, Pool.moveTo]
    have absent : ((pool.close session).moveTo who .emptied).hasParked session.serial = false := by
      by_contra parked
      rw [after.parked_or_closed (by simpa using parked)] at closed
      contradiction
    have stage : (pool.close session).stage? who = pool.stage? who := rfl
    refine ⟨.inl (by simp [stage?_moveTo, stage, found]), ?_, by rw [absent, closed]; rfl⟩
    rw [absent]
    cases broken <;> simp_all
  · rename_i parks
    cases gave
    rw [Bool.not_eq_true, Bool.or_eq_false_iff] at parks
    obtain ⟨rfl, open_⟩ := parks
    refine ⟨.inr ⟨pool.nextTicket, ?_⟩, ?_, ?_⟩
    · exact stage?_moveTo.trans (by rw [if_pos rfl]; exact congrArg (Option.map _) found)
    · simp [hasParked, Pool.moveTo, open_]
    · rw [after.parked_or_closed (by simp [hasParked, Pool.moveTo])]
      simp [hasParked, Pool.moveTo]

theorem stage?_moveTo_self (found : pool.stage? who = some stage) (new : Stage) :
    (pool.moveTo who new).stage? who = some new := by
  rw [stage?_moveTo, if_pos rfl, found]
  rfl

theorem stage?_dismiss_self : (pool.dismiss who).stage? who = none := by
  rw [stage?_dismiss, if_pos rfl]

theorem stage?_dismiss_handSlot (distinct : pool.borrowers.Distinct) :
    (pool.dismiss who).handSlot.stage? who = none := by
  have apart : (pool.dismiss who).stage? who ≠ some .waiting := by simp [stage?_dismiss_self]
  rw [stage?_handSlot distinct.remove apart, stage?_dismiss_self]

/-- A borrower that looks for a session has none yet.  In the end it has one, or
it waits for something, or it was refused. -/
theorem stage_of_seek (distinct : pool.borrowers.Distinct) (sought : pool.seek? who = some next) :
    pool.session? who = none ∧ (next.stage? who = none ∨
      (∃ stage, next.stage? who = some stage ∧
        (stage = .waiting ∨ stage = .called ∨ stage = .admitted ∨ stage = .connecting)) ∨
      ∃ session, next.stage? who = some (.borrowing session false)) := by
  have added (free : Nat) (absent : pool.stage? who = none) (stage : Stage) :
      ({ pool with free, borrowers := pool.borrowers.add who stage } : Pool).stage? who =
        some stage := by
    refine Roster.entry_add.trans ?_
    rw [if_pos rfl]
    exact congrArg (Option.or · (some stage)) absent
  unfold seek? at sought
  rw [session?]
  split at sought
  · rename_i absent
    simp only [arrive?, absent] at sought
    refine ⟨by rw [absent]; rfl, ?_⟩
    split at sought
    · cases sought
      exact .inl absent
    · split at sought
      · cases sought
        exact .inr (.inl ⟨_, added _ absent _, by simp⟩)
      · cases sought
        exact .inr (.inl ⟨_, added _ absent _, by simp⟩)
  · rename_i found
    simp only [proceed?, found] at sought
    refine ⟨by rw [found]; rfl, ?_⟩
    split at sought
    · contradiction
    · cases sought
      exact .inl stage?_dismiss_self
  · rename_i found
    simp only [proceed?, found] at sought
    refine ⟨by rw [found]; rfl, ?_⟩
    split at sought
    · cases sought
      exact .inr (.inl ⟨_, stage?_moveTo_self found _, by simp⟩)
    · cases sought
      exact .inl (stage?_dismiss_handSlot distinct)
  · rename_i found
    refine ⟨by rw [found]; rfl, ?_⟩
    unfold look? at sought
    rw [found] at sought
    split at sought
    · cases sought
      exact .inr (.inr ⟨_, stage?_moveTo_self found _⟩)
    · cases sought
      exact .inr (.inl ⟨_, stage?_moveTo_self found _, by simp⟩)
    · contradiction
  · contradiction

theorem stage_of_withdraw (distinct : pool.borrowers.Distinct)
    (withdrawn : pool.withdraw? who = some next) :
    pool.session? who = none ∧ next.stage? who = none := by
  unfold withdraw? at withdrawn
  rw [session?]
  split at withdrawn <;> cases withdrawn <;> rename_i found <;> rw [found]
  · exact ⟨rfl, stage?_dismiss_self⟩
  · exact ⟨rfl, stage?_dismiss_handSlot distinct⟩
  · exact ⟨rfl, stage?_dismiss_handSlot distinct⟩
  · exact ⟨rfl, stage?_dismiss_handSlot distinct⟩

theorem stage_of_judge {broken : Bool} {session : Session} {old : Bool}
    (found : pool.stage? who = some (.borrowing session old))
    (judged : pool.judge? who broken = some next) :
    next.stage? who = some (.borrowing session broken) := by
  simp only [judge?, found] at judged
  cases judged
  exact stage?_moveTo_self found _

end Pool

def Exchange.asks {α : Type} (exchange : Exchange α) : Bool :=
  match exchange.position with
  | .asking => true
  | _ => false

/-- Where a session went that an attempt gave back. -/
structure Attempt.Return where
  session : Nat
  /-- The pool was not sealed. -/
  poolOpen : Bool
  parked : Bool
  closed : Bool

/-- A request, by the age of the session that it was made on. -/
structure Attempt.Request where
  age : Option Nat
  /-- The session was connected anew before. -/
  renewed : Bool

/-- What one attempt of an exchange did. -/
structure Attempt (α : Type) where
  /-- The serials of the sessions that came into its hands. -/
  sessions : List Nat := []
  renewed : Bool := false
  requests : List Attempt.Request := []
  returns : List Attempt.Return := []
  /-- What came of it; `some none` if it was given up. -/
  outcome : Option (Option (Except Error α)) := none
  /-- Has an outcome and nothing in the pool any more. -/
  closed : Bool := false

/-- An exchange and the pool that it takes place in. -/
structure Errand (α : Type) where
  pool : Pool
  exchange : Exchange α := {}
  /-- The attempts up to now, the latest first. -/
  attempts : List (Attempt α) := []

namespace Errand

variable {α : Type}

/-- What can happen: to the exchange, or to the pool without it. -/
inductive Event (α : Type) where
  | go
  | connected (result : Except Error Unit)
  | reconnected (result : Except Error Unit)
  | answered (result : Except Error α)
  | abandon
  | others (action : Pool.Action)

/-- The outcome that an event brings about. -/
def Event.outcome? : Event α → Option (Option (Except Error α))
  | .connected (.error error) | .reconnected (.error error) => some (some (.error error))
  | .answered result => some (some result)
  | .abandon => some none
  | _ => none

def Event.renews : Event α → Bool
  | .reconnected (.ok ()) => true
  | _ => false

/-- What an event does to the exchange, if it is for the exchange. -/
def Event.act? (event : Event α) (errand : Errand α) (who : Nat) :
    Option (Pool × Exchange α) :=
  match event with
  | .go => errand.exchange.go? errand.pool who
  | .connected result => errand.exchange.connected? errand.pool who result
  | .reconnected result => errand.exchange.reconnected? errand.pool who result
  | .answered result => errand.exchange.answered? errand.pool who result
  | .abandon => errand.exchange.abandon? errand.pool who
  | .others _ => none

/-- Writes down what can be seen of a step in the pool.  A borrower that is gone
and came to nothing was refused. -/
def note (attempt : Attempt α) (who : Nat) (event : Event α) (asked : Bool)
    (before after : Pool) : Attempt α :=
  let old := (before.session? who).map (·.serial)
  let new := (after.session? who).map (·.serial)
  let renewed := attempt.renewed || event.renews
  let gone := (after.stage? who).isNone
  let outcome := (attempt.outcome.or event.outcome?).or
    (if gone then some (some (.error .poolClosed)) else none)
  { sessions := attempt.sessions ++ (if old = new then none else new).toList
    renewed
    requests := attempt.requests ++
      if asked then [⟨(after.session? who).map (after.ageClock - ·.connectedAt), renewed⟩] else []
    returns := attempt.returns ++ ((if old = new then none else old).map fun serial =>
      ⟨serial, !before.isSealed, after.hasParked serial, after.hasClosed serial⟩).toList
    outcome
    closed := outcome.isSome && gone }

/-- The attempt under way; a new one if the last is over. -/
def current (errand : Errand α) : Attempt α :=
  match errand.attempts with
  | [] => {}
  | last :: _ => if last.closed then {} else last

/-- The attempts that are over. -/
def earlier (errand : Errand α) : List (Attempt α) :=
  match errand.attempts with
  | [] => []
  | last :: others => if last.closed then last :: others else others

/-- One step, of the exchange or of others. -/
def step? (who : Nat) (errand : Errand α) : Event α → Option (Errand α)
  | .others action =>
      if action.borrower? = some who then none
      else (errand.pool.step? action).map fun pool => { errand with pool }
  | event => (event.act? errand who).map fun (pool, exchange) =>
      { pool, exchange,
        attempts := note errand.current who event (exchange.asks && !errand.exchange.asks)
          errand.pool pool :: errand.earlier }

def run? (who : Nat) (errand : Errand α) (events : List (Event α)) : Option (Errand α) :=
  events.foldlM (step? who) errand

end Errand

end PrintConnector
