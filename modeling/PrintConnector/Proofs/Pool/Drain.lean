import PrintConnector.Pool.Visit
import PrintConnector.Proofs.Pool.Errand

namespace PrintConnector.Pool

variable {limits : Limits} {pool before shut middle next : Pool} {action : Action}
  {actions : List Action} {who other : Nat} {stage : Stage} {session : Session} {broken : Bool}

/-- Has no slot to go on with: is not there, is in line, or was called and has not
gone on. -/
def Ungranted (pool : Pool) (who : Nat) : Prop :=
  pool.stage? who = none ∨ pool.stage? who = some .waiting ∨ pool.stage? who = some .called

/-- Behind the shut gate a slot that comes free is handed to nobody. -/
theorem handSlot_shut (shut : pool.gateOpen = false) :
    pool.handSlot = { pool with free := pool.free + 1 } := by
  simp [handSlot, shut]

/-- Behind the shut gate a step leaves the others where they are. -/
theorem Changes.stays {mover : Option Nat} (changes : Changes mover pool next)
    (shut : pool.gateOpen = false) (apart : mover ≠ some other) :
    next.stage? other = pool.stage? other := by
  induction changes with
  | refl => rfl
  | trans first _ ih ih' => exact (ih' (first.frame.shut shut)).trans (ih shut)
  | @moveTo _ who _ mine =>
      have different : other ≠ who := fun same => apart (same ▸ mine)
      rw [stage?_moveTo, if_neg different]
  | @dismiss _ who mine =>
      have different : other ≠ who := fun same => apart (same ▸ mine)
      rw [stage?_dismiss, if_neg different]
  | @enter _ who _ _ mine _ =>
      have different : other ≠ who := fun same => apart (same ▸ mine)
      refine Roster.entry_add.trans ?_
      rw [if_neg different, Option.or_none]
      rfl
  | handSlot =>
      rw [handSlot_shut shut]
      rfl
  | rest borrowers => rw [stage?, stage?, borrowers]

/-- What a borrower without a slot does of itself behind the shut gate: it goes
away, refused or by its own will, and no session is opened. -/
theorem Ungranted.goes (ungranted : pool.Ungranted who) (shut : pool.gateOpen = false)
    (mine : action.borrower? = some who) (stepped : pool.step? action = some next) :
    next.stage? who = none ∧ next.opened = pool.opened ∧
      (action = .arrive who ∨ action = .proceed who ∨ action = .withdraw who) := by
  have left : (pool.dismiss who).stage? who = none := stage?_dismiss_self
  have leftSlot : (pool.dismiss who).handSlot.stage? who = none ∧
      (pool.dismiss who).handSlot.opened = pool.opened := by
    have freed : (pool.dismiss who).handSlot =
        { pool.dismiss who with free := (pool.dismiss who).free + 1 } := handSlot_shut shut
    rw [freed]
    exact ⟨left, rfl⟩
  cases action with
  | reap | shutGate | sealUp | elapse | age => contradiction
  | arrive borrower =>
      obtain rfl := Option.some.inj mine
      change pool.arrive? borrower = some next at stepped
      unfold arrive? at stepped
      split at stepped
      · contradiction
      · rename_i absent
        rw [shut] at stepped
        cases stepped
        exact ⟨absent, rfl, .inl rfl⟩
  | proceed borrower =>
      obtain rfl := Option.some.inj mine
      change pool.proceed? borrower = some next at stepped
      unfold proceed? at stepped
      simp only [shut, Bool.false_eq_true, if_false] at stepped
      split at stepped <;> cases stepped
      · exact ⟨left, rfl, .inr (.inl rfl)⟩
      · exact ⟨leftSlot.1, leftSlot.2, .inr (.inl rfl)⟩
  | withdraw borrower =>
      obtain rfl := Option.some.inj mine
      change pool.withdraw? borrower = some next at stepped
      rcases ungranted with absent | waits | called
      · simp [withdraw?, absent] at stepped
      · simp only [withdraw?, waits, Option.some.injEq] at stepped
        subst stepped
        exact ⟨left, rfl, .inr (.inr rfl)⟩
      · simp only [withdraw?, called, Option.some.injEq] at stepped
        subst stepped
        exact ⟨leftSlot.1, leftSlot.2, .inr (.inr rfl)⟩
  | look borrower | connected borrower | judge borrower | renew borrower | giveBack borrower
  | freeSlot borrower | startReaper borrower | takeBack borrower =>
      obtain rfl := Option.some.inj mine
      rcases ungranted with absent | waits | called <;>
        simp [step?, look?, connected?, judge?, renew?, giveBack?, freeSlot?, startReaper?,
          takeBack?, *] at stepped

/-- Behind the shut gate a borrower without a slot stays where it is or goes away. -/
theorem Ungranted.step (ungranted : pool.Ungranted who) (shut : pool.gateOpen = false)
    (stepped : pool.step? action = some next) :
    next.stage? who = none ∨ next.stage? who = pool.stage? who := by
  by_cases mine : action.borrower? = some who
  · exact .inl (ungranted.goes shut mine stepped).1
  · exact .inr ((changes_of_step stepped).stays shut mine)

theorem Ungranted.run (ungranted : pool.Ungranted who) (shut : pool.gateOpen = false)
    (ran : pool.run? actions = some next) :
    next.stage? who = none ∨ next.stage? who = pool.stage? who := by
  induction actions generalizing pool with
  | nil =>
      cases ran
      exact .inr rfl
  | cons action actions ih =>
      rw [run?, List.foldlM_cons] at ran
      obtain ⟨middle, stepped, rest⟩ := Option.bind_eq_some_iff.mp ran
      have still := (frame_of_step stepped).shut shut
      rcases ungranted.step shut stepped with gone | same
      · exact .inl ((ih (.inl gone) still rest).elim id (·.trans gone))
      · have after : middle.Ungranted who := by rwa [Ungranted, same]
        exact (ih after still rest).imp_right (·.trans same)

theorem frame_of_run (ran : pool.run? actions = some next) :
    (pool.gateOpen = false → next.gateOpen = false) ∧
      (pool.isSealed = true → next.isSealed = true) := by
  induction actions generalizing pool with
  | nil =>
      cases ran
      exact ⟨id, id⟩
  | cons action actions ih =>
      rw [run?, List.foldlM_cons] at ran
      obtain ⟨middle, stepped, rest⟩ := Option.bind_eq_some_iff.mp ran
      have frame := frame_of_step stepped
      exact ⟨(ih rest).1 ∘ frame.shut, (ih rest).2 ∘ frame.sealed⟩

theorem closed_handSlot (pool : Pool) : pool.handSlot.closed = pool.closed := by
  unfold handSlot
  split <;> rfl

theorem closed_closeParked (pool : Pool) (ticket : Nat) :
    pool.closed <+: (pool.closeParked ticket).closed := by
  unfold closeParked
  split
  · exact List.prefix_append _ _
  · exact List.prefix_rfl

/-- A closed session stays among the closed ones. -/
theorem closed_of_step (stepped : pool.step? action = some next) : pool.closed <+: next.closed := by
  have freed (who : Nat) : pool.closed <+: (pool.dismiss who).handSlot.closed := by
    rw [closed_handSlot]
    exact List.prefix_rfl
  cases action with
  | look | connected | judge | renew | startReaper =>
      simp only [step?, look?, connected?, judge?, renew?, startReaper?] at stepped
      split at stepped <;> cases stepped <;> exact List.prefix_rfl
  | arrive who =>
      simp only [step?, arrive?] at stepped
      split at stepped
      · contradiction
      · split at stepped
        · cases stepped
          exact List.prefix_rfl
        · split at stepped <;> cases stepped <;> exact List.prefix_rfl
  | proceed who =>
      simp only [step?, proceed?] at stepped
      split at stepped
      · split at stepped <;> cases stepped
        exact List.prefix_rfl
      · split at stepped <;> cases stepped
        · exact List.prefix_rfl
        · exact freed who
      · contradiction
  | withdraw who =>
      simp only [step?, withdraw?] at stepped
      split at stepped <;> cases stepped
      · exact List.prefix_rfl
      · exact freed who
      · exact freed who
      · exact freed who
  | giveBack who =>
      simp only [step?, giveBack?] at stepped
      split at stepped
      · split at stepped <;> cases stepped
        · exact List.prefix_append _ _
        · exact List.prefix_rfl
      · contradiction
  | freeSlot who =>
      simp only [step?, freeSlot?] at stepped
      split at stepped <;> cases stepped
      · exact freed who
      · rw [closed_handSlot]
        exact List.prefix_rfl
  | takeBack who =>
      simp only [step?, takeBack?] at stepped
      split at stepped <;> cases stepped
      exact closed_closeParked (pool.dismiss who) _
  | reap ticket =>
      simp only [step?, reap?] at stepped
      split at stepped
      · split at stepped <;> cases stepped
        exact closed_closeParked { pool with reapers := pool.reapers.remove ticket } ticket
      · contradiction
  | shutGate | elapse | age =>
      cases stepped
      exact List.prefix_rfl
  | sealUp =>
      cases stepped
      exact List.prefix_append _ _

theorem closed_of_run (ran : pool.run? actions = some next) : pool.closed <+: next.closed := by
  induction actions generalizing pool with
  | nil =>
      cases ran
      exact List.prefix_rfl
  | cons action actions ih =>
      rw [run?, List.foldlM_cons] at ran
      obtain ⟨middle, stepped, rest⟩ := Option.bind_eq_some_iff.mp ran
      exact (closed_of_step stepped).trans (ih rest)

/-- The steps that a borrower still takes of itself when the pool is closed. -/
def Stage.wayOut (who : Nat) : Stage → List Action
  | .waiting | .called => [.proceed who]
  | .admitted => [.look who, .connected who, .giveBack who, .freeSlot who]
  | .connecting => [.connected who, .giveBack who, .freeSlot who]
  | .borrowing .. => [.giveBack who, .freeSlot who]
  | .emptied => [.freeSlot who]
  | .parked _ => [.freeSlot who, .startReaper who]
  | .leaving _ => [.startReaper who]

/-- The gate is shut and the shelf is sealed and empty. -/
structure IsClosed (pool : Pool) : Prop where
  shut : pool.gateOpen = false
  sealed : pool.isSealed = true
  parked : pool.parked = []

theorem run?_cons : pool.run? (action :: actions) = some next ↔
    ∃ middle, pool.step? action = some middle ∧ middle.run? actions = some next := by
  rw [run?, List.foldlM_cons]
  exact Option.bind_eq_some_iff

/-- A run after which one borrower has left the closed pool. -/
def LeavesBy (pool : Pool) (who : Nat) (actions : List Action) : Prop :=
  ∃ next, pool.run? actions = some next ∧ next.IsClosed ∧
    next.borrowers = pool.borrowers.remove who

theorem LeavesBy.after (leaves : middle.LeavesBy who actions)
    (stepped : pool.step? action = some middle)
    (others : middle.borrowers.remove who = pool.borrowers.remove who) :
    pool.LeavesBy who (action :: actions) := by
  obtain ⟨next, ran, closed, left⟩ := leaves
  exact ⟨next, run?_cons.mpr ⟨middle, stepped, ran⟩, closed, left.trans others⟩

namespace IsClosed

theorem leaves_at_once (closed : next.IsClosed) (stepped : pool.step? action = some next)
    (left : next.borrowers = pool.borrowers.remove who) : pool.LeavesBy who [action] :=
  ⟨next, run?_cons.mpr ⟨next, stepped, rfl⟩, closed, left⟩

theorem dismiss_handSlot (closed : pool.IsClosed) : (pool.dismiss who).handSlot.IsClosed ∧
    (pool.dismiss who).handSlot.borrowers = pool.borrowers.remove who := by
  have freed : (pool.dismiss who).handSlot =
      { pool.dismiss who with free := (pool.dismiss who).free + 1 } := handSlot_shut closed.shut
  rw [freed]
  exact ⟨⟨closed.shut, closed.sealed, closed.parked⟩, rfl⟩

theorem frees (closed : pool.IsClosed) (emptied : pool.stage? who = some .emptied) :
    pool.LeavesBy who [.freeSlot who] :=
  closed.dismiss_handSlot.1.leaves_at_once (by simp [step?, freeSlot?, emptied])
    closed.dismiss_handSlot.2

/-- A session that is given back is closed, whether it is broken or not. -/
theorem gives (closed : pool.IsClosed)
    (borrows : pool.stage? who = some (.borrowing session broken)) :
    pool.step? (.giveBack who) = some ((pool.close session).moveTo who .emptied) := by
  simp [step?, giveBack?, borrows, closed.sealed]

theorem returns (closed : pool.IsClosed)
    (borrows : pool.stage? who = some (.borrowing session broken)) :
    pool.LeavesBy who [.giveBack who, .freeSlot who] := by
  have still : ((pool.close session).moveTo who .emptied).IsClosed :=
    ⟨closed.shut, closed.sealed, closed.parked⟩
  have holds : (pool.close session).stage? who = pool.stage? who := rfl
  have emptied : ((pool.close session).moveTo who .emptied).stage? who = some .emptied :=
    stage?_moveTo_self (holds.trans borrows) _
  exact (still.frees emptied).after (closed.gives borrows) Roster.remove_update

theorem connects (closed : pool.IsClosed) (connecting : pool.stage? who = some .connecting) :
    pool.LeavesBy who [.connected who, .giveBack who, .freeSlot who] := by
  let opened : Pool := { pool with opened := pool.opened + 1 }
  let session : Session := ⟨pool.opened, pool.ageClock⟩
  have still : (opened.moveTo who (.borrowing session false)).IsClosed :=
    ⟨closed.shut, closed.sealed, closed.parked⟩
  have holds : opened.stage? who = pool.stage? who := rfl
  have borrows : (opened.moveTo who (.borrowing session false)).stage? who =
      some (.borrowing session false) := stage?_moveTo_self (holds.trans connecting) _
  exact (still.returns borrows).after (by simp [step?, connected?, connecting, opened, session])
    Roster.remove_update

theorem looks (closed : pool.IsClosed) (admitted : pool.stage? who = some .admitted) :
    pool.LeavesBy who [.look who, .connected who, .giveBack who, .freeSlot who] := by
  have still : (pool.moveTo who .connecting).IsClosed := ⟨closed.shut, closed.sealed, closed.parked⟩
  exact (still.connects (stage?_moveTo_self admitted _)).after
    (by simp [step?, look?, admitted, closed.parked]) Roster.remove_update

theorem startsReaper {ticket : Nat} (closed : pool.IsClosed)
    (leaving : pool.stage? who = some (.leaving ticket)) :
    pool.LeavesBy who [.startReaper who] := by
  have stepped : pool.step? (.startReaper who) = some { pool.dismiss who with
      reapers := pool.reapers.add ticket (pool.clock + pool.limits.grace) } := by
    simp [step?, startReaper?, leaving]
  have still : IsClosed { pool.dismiss who with
      reapers := pool.reapers.add ticket (pool.clock + pool.limits.grace) } :=
    ⟨closed.shut, closed.sealed, closed.parked⟩
  exact still.leaves_at_once stepped rfl

/-- Every borrower of a closed pool can go on until it has left. -/
theorem leaves (closed : pool.IsClosed) (found : pool.stage? who = some stage) :
    pool.LeavesBy who (stage.wayOut who) := by
  cases stage with
  | waiting =>
      have still : (pool.dismiss who).IsClosed := ⟨closed.shut, closed.sealed, closed.parked⟩
      exact still.leaves_at_once (by simp [step?, proceed?, found, closed.shut]) rfl
  | called =>
      exact closed.dismiss_handSlot.1.leaves_at_once (by simp [step?, proceed?, found, closed.shut])
        closed.dismiss_handSlot.2
  | admitted => exact closed.looks found
  | connecting => exact closed.connects found
  | borrowing session broken => exact closed.returns found
  | emptied => exact closed.frees found
  | leaving ticket => exact closed.startsReaper found
  | parked ticket =>
      have freed : (pool.moveTo who (.leaving ticket)).handSlot =
          { pool.moveTo who (.leaving ticket) with free := pool.free + 1 } :=
        handSlot_shut closed.shut
      have still : IsClosed { pool.moveTo who (.leaving ticket) with free := pool.free + 1 } :=
        ⟨closed.shut, closed.sealed, closed.parked⟩
      exact (still.startsReaper (stage?_moveTo_self found _)).after
        (by simp [step?, freeSlot?, found, freed]) Roster.remove_update

/-- All borrowers of a closed pool can leave it, one after the other. -/
theorem empties (closed : pool.IsClosed) :
    ∃ actions next, pool.run? actions = some next ∧ next.IsClosed ∧ next.borrowers = [] := by
  induction size : pool.borrowers.length using Nat.strongRecOn generalizing pool with
  | ind count ih =>
      cases borrowers : pool.borrowers with
      | nil => exact ⟨[], pool, rfl, closed, borrowers⟩
      | cons first rest =>
          obtain ⟨who, stage⟩ := first
          have found : pool.stage? who = some stage := by
            rw [stage?, borrowers, Roster.entry_cons, if_pos rfl]
          obtain ⟨middle, ran, still, left⟩ := closed.leaves found
          have fewer : middle.borrowers.length < count := by
            have shorter := List.length_filter_le (fun entry : Nat × Stage => entry.1 ≠ who) rest
            rw [left, ← size, borrowers, Roster.remove, List.filter_cons_of_neg (by simp)]
            exact Nat.lt_succ_of_le shorter
          obtain ⟨actions, next, rest, closed, empty⟩ := ih _ fewer still rfl
          refine ⟨stage.wayOut who ++ actions, next, ?_, closed, empty⟩
          rw [run?, List.foldlM_append]
          exact Option.bind_eq_some_iff.mpr ⟨middle, ran, rest⟩

end IsClosed

theorem Balanced.sealed_run (balanced : Balanced limits 0 pool) (shut : pool.gateOpen = false)
    (sealed : pool.isSealed = true) (ran : pool.run? actions = some next) : next.IsClosed where
  shut := (frame_of_run ran).1 shut
  sealed := (frame_of_run ran).2 sealed
  parked := (balanced.run ran).emptied ((frame_of_run ran).2 sealed)

/-- A session in hand is not closed. -/
theorem Balanced.open_in_hand (balanced : Balanced limits 0 pool)
    (borrows : pool.stage? who = some (.borrowing session broken)) :
    session.serial ∉ pool.closed := by
  have inHand : 0 < pool.inHand session.serial := by
    refine List.countP_pos_iff.mpr ⟨_, Roster.mem_of_entry borrows, ?_⟩
    simp [Stage.hasInHand, Stage.session?]
  have places := balanced.places session.serial
  refine List.count_eq_zero.mp ?_
  split at places <;> omega

theorem Balanced.closed_nodup (balanced : Balanced limits 0 pool) : pool.closed.Nodup := by
  refine List.nodup_iff_count_le_one.mpr fun serial => ?_
  have places := balanced.places serial
  split at places <;> omega

/-- What is open while nothing is parked is in somebody's hands. -/
theorem Balanced.in_hand_of_open {serial : Nat} (balanced : Balanced limits 0 pool)
    (parked : pool.parked = []) (live : pool.IsLive serial) :
    ∃ who session broken, pool.stage? who = some (.borrowing session broken) ∧
      session.serial = serial := by
  have once := balanced.accounted.live_once serial live
  rw [onShelf, parked] at once
  have inHand : 0 < pool.inHand serial := by
    change pool.inHand serial + 0 = 1 at once
    omega
  obtain ⟨⟨who, stage⟩, member, has⟩ := List.countP_pos_iff.mp inHand
  cases stage with
  | borrowing session broken =>
      refine ⟨who, session, broken, balanced.borrowers.entry_of_mem member, ?_⟩
      simpa [Stage.hasInHand, Stage.session?] using has
  | _ => simp [Stage.hasInHand, Stage.session?] at has

/-- Whoever goes on to borrow a session is refused and gone, and none is opened. -/
structure TurnsAway (pool next : Pool) (who : Nat) : Prop where
  visit : (Visit.borrow who).go? pool = some (next, (Visit.borrow who).fail .poolClosed)
  exchange : ∀ (α : Type) (exchange : Exchange α), exchange.position = .borrowing →
    exchange.go? pool who = some (next, exchange.conclude (some (.error .poolClosed)))
  gone : next.stage? who = none
  opened : next.opened = pool.opened

theorem Ungranted.turnsAway (ungranted : pool.Ungranted who) (sought : pool.seek? who = some next)
    (gone : next.stage? who = none) (opened : next.opened = pool.opened) :
    TurnsAway pool next who where
  visit := by
    rcases ungranted with found | found | found <;>
      simp [Visit.go?, Visit.borrow, found, sought, gone]
  exchange α exchange position := by
    rcases ungranted with found | found | found <;>
      simp [Exchange.go?, position, found, sought, gone]
  gone := gone
  opened := opened

/-- How a pool treats those who have no slot to go on with, after its gate was shut. -/
structure Refuses (shut pool : Pool) : Prop where
  /-- Whoever comes now is refused on the spot. -/
  newcomer : ∀ who, pool.stage? who = none → TurnsAway pool pool who
  /-- Whoever had no slot to go on with when the gate was shut has got none since. -/
  ungranted : ∀ who, shut.Ungranted who →
    pool.stage? who = none ∨ pool.stage? who = shut.stage? who
  /-- It is refused when it goes on. -/
  refused : ∀ who, pool.stage? who = some .waiting ∨ pool.stage? who = some .called →
    ∃ next, TurnsAway pool next who
  /-- Other than that it can only give up. -/
  line : ∀ who action next, pool.Ungranted who → pool.step? action = some next →
    next.stage? who = pool.stage? who ∨
      next.stage? who = none ∧ next.opened = pool.opened ∧
        (action = .proceed who ∨ action = .withdraw who)

theorem refuses_of_run (closing : shut.gateOpen = false) (ran : shut.run? actions = some pool) :
    Refuses shut pool := by
  have still := (frame_of_run ran).1 closing
  exact {
    newcomer := by
      intro who absent
      exact Ungranted.turnsAway (.inl absent) (by simp [seek?, arrive?, absent, still]) absent rfl
    ungranted := fun who ungranted => ungranted.run closing ran
    refused := by
      intro who stands
      have goes (next : Pool) (sought : pool.seek? who = some next)
          (stepped : pool.step? (.proceed who) = some next) : ∃ next, TurnsAway pool next who := by
        obtain ⟨gone, opened, -⟩ := Ungranted.goes (.inr stands) still rfl stepped
        exact ⟨next, Ungranted.turnsAway (.inr stands) sought gone opened⟩
      rcases stands with waits | called
      · exact goes (pool.dismiss who) (by simp [seek?, proceed?, waits, still])
          (by simp [step?, proceed?, waits, still])
      · exact goes (pool.dismiss who).handSlot (by simp [seek?, proceed?, called, still])
          (by simp [step?, proceed?, called, still])
    line := by
      intro who action next ungranted stepped
      by_cases mine : action.borrower? = some who
      · obtain ⟨gone, opened, which⟩ := ungranted.goes still mine stepped
        rcases which with rfl | proceeds | withdraws
        · have absent : pool.stage? who = none := by
            rcases ungranted with absent | waits | called
            · exact absent
            · simp [step?, arrive?, waits] at stepped
            · simp [step?, arrive?, called] at stepped
          exact .inl (gone.trans absent.symm)
        · exact .inr ⟨gone, opened, .inl proceeds⟩
        · exact .inr ⟨gone, opened, .inr withdraws⟩
      · exact .inl ((changes_of_step stepped).stays still mine) }

/-- What closing does to a pool: it is called in `earlier`, it seals the shelf in
`closing`, and `pool` is how things stand at any time after it has returned. -/
structure Drained (earlier closing pool : Pool) : Prop where
  refusesAtOnce : Refuses earlier.shutGate closing
  refuses : Refuses earlier.shutGate pool
  /-- No session is parked any more. -/
  parked : pool.parked = []
  /-- Every session that is given back is closed. -/
  returned : ∀ who session broken, pool.stage? who = some (.borrowing session broken) →
    ∃ next, pool.step? (.giveBack who) = some next ∧ next.stage? who = some .emptied ∧
      next.closed = pool.closed ++ [session.serial] ∧ next.parked = []
  /-- Whoever is still there can go on until it has left, with a session if it was
  granted a slot. -/
  leaves : ∀ who stage, pool.stage? who = some stage →
    ∃ next, pool.run? (stage.wayOut who) = some next ∧
      next.borrowers = pool.borrowers.remove who
  /-- An open session is in somebody's hands. -/
  inHand : ∀ serial, pool.IsLive serial → ∃ who session broken,
    pool.stage? who = some (.borrowing session broken) ∧ session.serial = serial
  /-- When everybody has left, every session is closed. -/
  drained : (∀ who, pool.stage? who = none) →
    pool.live = 0 ∧ ∀ serial < pool.opened, serial ∈ pool.closed
  /-- Everybody can leave. -/
  empties : ∃ actions next, pool.run? actions = some next ∧ next.borrowers = [] ∧ next.live = 0
  /-- No session is closed twice. -/
  once : pool.closed.Nodup
  grows : earlier.closed <+: closing.closed ∧ closing.closed <+: pool.closed
  /-- No session is in anybody's hands that is closed, at any of these times. -/
  open_ : ∀ time ∈ [earlier, closing, pool], ∀ who session broken,
    time.stage? who = some (.borrowing session broken) → session.serial ∉ time.closed

theorem Balanced.live_eq_zero (balanced : Balanced limits 0 pool) (parked : pool.parked = [])
    (nobody : pool.borrowers = []) : pool.live = 0 := by
  rw [balanced.live_eq, borrowed, nobody, idle, parked]
  rfl

/-- A pool that is closed, while borrowers come, wait, connect, give up and return
their sessions and reapers fire, runs dry. -/
theorem run_drained {early between late : List Action} {earlier closing : Pool}
    (opened : (start limits).run? early = some earlier)
    (closes : earlier.shutGate.run? between = some closing)
    (ran : closing.sealUp.run? late = some pool) : Drained earlier closing pool := by
  have before := (start_balanced limits).run opened
  have during := before.shutGate.run closes
  have after := during.sealUp.run ran
  have shut : closing.gateOpen = false := (frame_of_run closes).1 rfl
  have closed : pool.IsClosed := during.sealUp.sealed_run shut rfl ran
  have sealed : earlier.shutGate.run? (between ++ .sealUp :: late) = some pool := by
    rw [run?, List.foldlM_append]
    exact Option.bind_eq_some_iff.mpr ⟨closing, closes, ran⟩
  exact {
    refusesAtOnce := refuses_of_run rfl closes
    refuses := refuses_of_run rfl sealed
    parked := closed.parked
    returned := by
      intro who session broken borrows
      refine ⟨_, closed.gives borrows, ?_, rfl, closed.parked⟩
      have holds : (pool.close session).stage? who = pool.stage? who := rfl
      exact stage?_moveTo_self (holds.trans borrows) _
    leaves := by
      intro who stage found
      obtain ⟨next, ran, -, left⟩ := closed.leaves found
      exact ⟨next, ran, left⟩
    inHand := fun serial live => after.in_hand_of_open closed.parked live
    drained := by
      intro nobody
      refine ⟨after.live_eq_zero closed.parked (Roster.eq_nil_of_entry_none nobody), ?_⟩
      intro serial wasOpened
      by_contra isOpen
      obtain ⟨who, _, _, borrows, -⟩ := after.in_hand_of_open closed.parked ⟨wasOpened, isOpen⟩
      rw [nobody] at borrows
      contradiction
    empties := by
      obtain ⟨actions, next, leaves, still, empty⟩ := closed.empties
      exact ⟨actions, next, leaves, empty, (after.run leaves).live_eq_zero still.parked empty⟩
    once := after.closed_nodup
    grows := by
      have onward : earlier.shutGate.closed <+: closing.closed := closed_of_run closes
      refine ⟨onward, ?_⟩
      exact (List.prefix_append _ _).trans (closed_of_run ran)
    open_ := by
      intro time member who session broken borrows
      simp only [List.mem_cons, List.not_mem_nil, or_false] at member
      rcases member with rfl | rfl | rfl
      · exact before.open_in_hand borrows
      · exact during.open_in_hand borrows
      · exact after.open_in_hand borrows }

/-- A session is parked between the two steps of closing, while one borrower is in
line and another one connects, which has its session only after them. -/
theorem parkedBetween_drained :
    ∃ earlier closing pool,
      (start ⟨2, 1000, 1000, 1000⟩).run?
        [.arrive 0, .look 0, .connected 0, .arrive 1, .look 1, .arrive 2] = some earlier ∧
      earlier.shutGate.run? [.giveBack 0, .freeSlot 0, .startReaper 0] = some closing ∧
      closing.sealUp.run? [.connected 1, .elapse 1000, .reap 0] = some pool ∧
      earlier.stage? 2 = some .waiting ∧ closing.parked = [(0, ⟨0, 0⟩)] ∧ pool.closed = [0] ∧
      pool.stage? 1 = some (.borrowing ⟨1, 0⟩ false) ∧ Drained earlier closing pool := by
  have opened : (start ⟨2, 1000, 1000, 1000⟩).run?
      [.arrive 0, .look 0, .connected 0, .arrive 1, .look 1, .arrive 2] = some _ := rfl
  refine ⟨_, _, _, opened, rfl, rfl, rfl, rfl, rfl, rfl, ?_⟩
  exact run_drained opened
    (show run? (shutGate _) [.giveBack 0, .freeSlot 0, .startReaper 0] = some _ from rfl)
    (show run? (sealUp _) [.connected 1, .elapse 1000, .reap 0] = some _ from rfl)

end PrintConnector.Pool
