import PrintConnector.Proofs.Pool.Drain
import PrintConnector.Proofs.Pool.Retry

namespace PrintConnector

namespace Pool

variable {limits : Limits} {pool next : Pool} {who other serial : Nat} {session held : Session}
  {broken : Bool}

theorem hasParked_of_onShelf (nowhere : pool.onShelf serial = 0) :
    pool.hasParked serial = false := by
  rw [onShelf, Roster.tally, List.countP_eq_zero] at nowhere
  simpa [hasParked] using nowhere

theorem mem_of_session? (found : pool.session? who = some held) :
    ∃ stage, pool.stage? who = some stage ∧ stage.hasInHand held.serial = true := by
  obtain ⟨stage, found, holds⟩ := Option.bind_eq_some_iff.mp found
  exact ⟨stage, found, by simp [Stage.hasInHand, holds]⟩

/-- A session in hand is in one hand, and not on the shelf. -/
theorem Balanced.alone_in_hand (balanced : Balanced limits 0 pool)
    (borrows : pool.stage? who = some (.borrowing session broken)) :
    pool.hasParked session.serial = false ∧ ∀ other held,
      pool.session? other = some held → held.serial = session.serial → other = who := by
  have hands := balanced.borrowers.tally_remove borrows (Stage.hasInHand session.serial)
  have mine : (Stage.borrowing session broken).hasInHand session.serial = true := by
    simp [Stage.hasInHand, Stage.session?]
  -- Hands, shelf and closed sessions have it once together, and this hand has it.
  have places := balanced.places session.serial
  rw [mine, Bool.toNat_true] at hands
  rw [inHand, ← hands] at places
  refine ⟨hasParked_of_onShelf ?_, fun other held found same => ?_⟩
  · split at places <;> omega
  · by_contra apart
    obtain ⟨stage, found, has⟩ := mem_of_session? found
    have kept : Roster.entry? (pool.borrowers.remove who) other = some stage := by
      rw [Roster.entry_remove, if_neg apart]
      exact found
    have another : 0 < (pool.borrowers.remove who).tally (Stage.hasInHand session.serial) :=
      List.countP_pos_iff.mpr ⟨_, Roster.mem_of_entry kept, same ▸ has⟩
    split at places <;> omega

/-- A closed session is nowhere else. -/
theorem Balanced.nowhere_of_closed (balanced : Balanced limits 0 pool)
    (closed : pool.hasClosed serial = true) :
    pool.hasParked serial = false ∧
      ∀ other held, pool.session? other = some held → held.serial ≠ serial := by
  have places := balanced.places serial
  have one : 0 < pool.closed.count serial :=
    List.count_pos_iff.mpr (List.contains_iff_mem.mp closed)
  refine ⟨hasParked_of_onShelf ?_, fun other held found same => ?_⟩
  · split at places <;> omega
  · obtain ⟨stage, found, has⟩ := mem_of_session? found
    have another : 0 < pool.inHand serial :=
      List.countP_pos_iff.mpr ⟨_, Roster.mem_of_entry found, same ▸ has⟩
    split at places <;> omega

theorem Turns.closed {mover : Option Nat} (turns : Turns mover pool next)
    (closed : pool.hasClosed serial = true) : next.hasClosed serial = true := by
  cases turns with
  | idle => exact closed
  | step stepped =>
      rw [hasClosed, List.contains_iff_mem] at closed ⊢
      exact (closed_of_step stepped).subset closed

end Pool

namespace Errand

variable {α : Type} {who serial : Nat} {limits : Pool.Limits} {errand next : Errand α}
  {event : Event α} {session : Session} {broken : Bool} {outcome : Option (Except Error α)}
  {error : Error}

/-- What every step keeps is kept by a run. -/
theorem Sound.keeps {kept : Errand α → Prop} {events : List (Event α)}
    (sound : Sound limits who errand) (first : kept errand)
    (steps : ∀ event ∈ events, ∀ errand next, Sound limits who errand → kept errand →
      errand.step? who event = some next → kept next)
    (ran : errand.run? who events = some next) : kept next := by
  induction events generalizing errand with
  | nil =>
      cases ran
      exact first
  | cons event events ih =>
      rw [run?, List.foldlM_cons] at ran
      obtain ⟨middle, stepped, rest⟩ := Option.bind_eq_some_iff.mp ran
      obtain ⟨here, later⟩ := List.forall_mem_cons.mp steps
      exact ih (sound.step stepped) (here errand middle sound first stepped) later rest

/-- The exchange is about to give its session back. -/
structure Returns (who : Nat) (session : Session) (broken : Bool)
    (outcome : Option (Except Error α)) (errand : Errand α) : Prop where
  position : errand.exchange.position = .returning outcome
  found : errand.pool.stage? who = some (.borrowing session broken)

/-- A session that is given back is parked if the pool is not sealed and nothing is
said against the session, and closed otherwise. -/
theorem Returns.go (returns : errand.Returns who session broken outcome)
    (sound : Sound limits who errand) :
    ∃ next, errand.step? who .go = some next ∧
      next.pool.hasParked session.serial = (!errand.pool.isSealed && !broken) ∧
      next.pool.hasClosed session.serial = !next.pool.hasParked session.serial := by
  obtain ⟨position, found⟩ := returns
  obtain ⟨after, gave⟩ : ∃ after, errand.pool.giveBack? who = some after := by
    simp only [Pool.giveBack?, found]
    split <;> exact ⟨_, rfl⟩
  obtain ⟨left, parked, closed⟩ := sound.balanced.returned found gave
  have stays : (after.stage? who).isSome = true := by
    obtain moved | ⟨ticket, moved⟩ := left <;> rw [moved] <;> rfl
  have gone : errand.exchange.go? errand.pool who = some (after, errand.exchange) := by
    simp [Exchange.go?, position, Exchange.release?, found, gave, stays]
  exact ⟨_, congrArg (Option.map _) gone, parked, closed⟩

/-- Until the session goes back nothing happens to it. -/
theorem Returns.step (returns : errand.Returns who session broken outcome)
    (sound : Sound limits who errand) (stepped : errand.step? who event = some next) :
    event = .go ∨ next.Returns who session broken outcome := by
  obtain ⟨position, found⟩ := returns
  cases event with
  | go => exact .inl rfl
  | others action =>
      simp only [step?] at stepped
      split at stepped
      · contradiction
      · rename_i apart
        obtain ⟨after, step, rfl⟩ := Option.map_eq_some_iff.mp stepped
        obtain ⟨-, -, alone⟩ := (Pool.changes_of_step step).leavesAlone sound.balanced.borrowers
        obtain same | ⟨waits, -⟩ := alone who apart
        · exact .inr ⟨position, same.trans found⟩
        · cases found.symm.trans waits
  | connected result | reconnected result | answered result | abandon =>
      simp [step?, Event.act?, Exchange.connected?, Exchange.reconnected?, Exchange.answered?,
        Exchange.abandon?, position] at stepped

theorem Returns.run {events : List (Event α)} (returns : errand.Returns who session broken outcome)
    (sound : Sound limits who errand) (idle : ∀ event ∈ events, event ≠ .go)
    (ran : errand.run? who events = some next) : next.Returns who session broken outcome :=
  sound.keeps returns (fun event member _ _ sound still stepped =>
    (still.step sound stepped).resolve_left (idle event member)) ran

/-- The session is lost to everybody: it is closed, or its borrower is about to close
it. -/
inductive Loses (who serial : Nat) (errand : Errand α) : Prop where
  | closed (closed : errand.pool.hasClosed serial = true)
  | returns {session : Session} {outcome : Option (Except Error α)}
      (returns : errand.Returns who session true outcome) (same : session.serial = serial)

theorem closed_of_step (stepped : errand.step? who event = some next)
    (closed : errand.pool.hasClosed serial = true) : next.pool.hasClosed serial = true := by
  cases event with
  | others action =>
      simp only [step?] at stepped
      split at stepped
      · contradiction
      · obtain ⟨after, step, rfl⟩ := Option.map_eq_some_iff.mp stepped
        have turns : Pool.Turns action.borrower? errand.pool after := .step step fun _ mine => mine
        exact turns.closed closed
  | _ =>
      obtain ⟨⟨after, next⟩, acted, rfl⟩ := Option.map_eq_some_iff.mp stepped
      exact (act_turns acted).closed closed

theorem Loses.step (loses : errand.Loses who serial) (sound : Sound limits who errand)
    (stepped : errand.step? who event = some next) : next.Loses who serial := by
  cases loses with
  | closed closed => exact .closed (closed_of_step stepped closed)
  | returns returns same =>
      obtain rfl | still := returns.step sound stepped
      · obtain ⟨after, went, parked, closed⟩ := returns.go sound
        cases stepped.symm.trans went
        refine .closed ?_
        rw [← same, closed, parked, Bool.not_true, Bool.and_false]
        rfl
      · exact .returns still same

theorem Loses.run {events : List (Event α)} (loses : errand.Loses who serial)
    (sound : Sound limits who errand) (ran : errand.run? who events = some next) :
    next.Loses who serial :=
  sound.keeps loses (fun _ _ _ _ sound still stepped => still.step sound stepped) ran

/-- What can be seen of a session that is lost. -/
structure HasLost (who serial : Nat) (errand : Errand α) : Prop where
  unparked : errand.pool.hasParked serial = false
  /-- Only its borrower has it, and is about to give it back. -/
  unshared : ∀ other session, errand.pool.session? other = some session →
    session.serial = serial →
      other = who ∧ ∃ outcome, errand.exchange.position = .returning outcome
  /-- It is closed, or the next step of the exchange closes it. -/
  closes : errand.pool.hasClosed serial = true ∨
    ∃ next, errand.step? who .go = some next ∧ next.pool.hasClosed serial = true

theorem Loses.hasLost (loses : errand.Loses who serial) (sound : Sound limits who errand) :
    errand.HasLost who serial := by
  cases loses with
  | closed closed =>
      obtain ⟨unparked, nobody⟩ := sound.balanced.nowhere_of_closed closed
      exact ⟨unparked, fun other held found same => absurd same (nobody other held found),
        .inl closed⟩
  | returns returns same =>
      subst same
      obtain ⟨unparked, alone⟩ := sound.balanced.alone_in_hand returns.found
      obtain ⟨next, went, parked, closed⟩ := returns.go sound
      refine ⟨unparked, fun other held found same => ⟨alone other held found same, _,
        returns.position⟩, .inr ⟨next, went, ?_⟩⟩
      rw [closed, parked, Bool.not_true, Bool.and_false]
      rfl

/-- A failed reconnect makes the exchange give its session back, judged by the
error. -/
theorem returns_of_reconnected {failed : Errand α} (sound : Sound limits who errand)
    (broke : errand.step? who (.reconnected (.error error)) = some failed) :
    ∃ session, errand.pool.session? who = some session ∧
      failed.Returns who session error.isTransport (some (.error error)) := by
  obtain ⟨⟨after, next⟩, acted, rfl⟩ := Option.map_eq_some_iff.mp broke
  have position : errand.exchange.position = .reconnecting := by
    simp only [Event.act?, Exchange.reconnected?] at acted
    split at acted
    · contradiction
    · rename_i position _
      exact position
    · contradiction
  simp only [Event.act?, Exchange.reconnected?, position] at acted
  obtain ⟨judged, step, same⟩ := Option.bind_eq_some_iff.mp acted
  obtain ⟨rfl, rfl⟩ := Prod.mk.inj (Option.some.inj same)
  cases sound.course with
  | running stands =>
      rw [position] at stands
      generalize found : errand.pool.stage? who = stage at stands
      generalize errand.current = attempt at stands
      cases stands with
      | @reconnecting session =>
          exact ⟨session, by rw [Pool.session?, found]; rfl, rfl, Pool.stage_of_judge found step⟩
  | ended finished => exact absurd (position.symm.trans finished) (by simp)

theorem sound_of_run {actions : List Pool.Action} {pool : Pool} {events : List (Event α)}
    (reached : (Pool.start limits).run? actions = some pool) (absent : pool.stage? who = none)
    (ran : (Errand.mk pool {} []).run? who events = some errand) : Sound limits who errand := by
  have setup : pool.limits = limits :=
    Pool.limits_of_run (Pool.start_balanced limits).borrowers rfl reached
  have stands : Exchange.Stands limits.maxAge .borrowing (pool.stage? who) ({} : Attempt α) :=
    absent ▸ .away
  exact Sound.run ⟨(Pool.start_balanced limits).run reached, setup, .running stands .first⟩ ran

/-- After a reconnect that failed, the session goes back.  It is parked if the pool is
not sealed and the error does not say that the session cannot be trusted, and closed
otherwise.  Once such an error came nobody gets the session any more, whatever
happens. -/
theorem run_failedReconnect {actions : List Pool.Action} {pool : Pool} {events : List (Event α)}
    {failed : Errand α} (reached : (Pool.start limits).run? actions = some pool)
    (absent : pool.stage? who = none) (ran : (Errand.mk pool {} []).run? who events = some errand)
    (broke : errand.step? who (.reconnected (.error error)) = some failed) :
    ∃ session, errand.pool.session? who = some session ∧
      (∀ waiting later, (∀ event ∈ waiting, event ≠ .go) → failed.run? who waiting = some later →
        ∃ next, later.step? who .go = some next ∧
          next.pool.hasParked session.serial = (!later.pool.isSealed && !error.isTransport) ∧
          next.pool.hasClosed session.serial = !next.pool.hasParked session.serial) ∧
      (error.isTransport = true → ∀ more later, failed.run? who more = some later →
        later.HasLost who session.serial) := by
  have sound : Sound limits who errand := sound_of_run reached absent ran
  obtain ⟨session, found, returns⟩ := returns_of_reconnected sound broke
  have after := sound.step broke
  refine ⟨session, found, fun waiting later idle waited => ?_, fun distrusted more later went => ?_⟩
  · exact (returns.run after idle waited).go (after.run waited)
  · rw [distrusted] at returns
    exact ((Loses.returns returns rfl).run after went).hasLost (after.run went)

/-- The request finds the session that was parked too old. -/
def findsStale : List (Event Nat) :=
  [.go, .go, .go, .go]

/-- The connection is reset while it is made anew. -/
theorem resetReconnect_lost :
    (Pool.start usedPool.limits).run? beforehand = some usedPool ∧ usedPool.stage? 0 = none ∧
      ∃ errand failed, (Errand.mk usedPool {} []).run? 0 findsStale = some errand ∧
        errand.step? 0 (.reconnected (.error (.transport "reset"))) = some failed ∧
        ∃ session, errand.pool.session? 0 = some session ∧
          ∀ more later, failed.run? 0 more = some later → later.HasLost 0 session.serial := by
  have reached : (Pool.start usedPool.limits).run? beforehand = some usedPool := rfl
  have both : ((Errand.mk usedPool {} []).run? 0 findsStale).bind
      (step? 0 · (.reconnected (.error (.transport "reset")))) = some _ := rfl
  obtain ⟨errand, ran, broke⟩ := Option.bind_eq_some_iff.mp both
  obtain ⟨session, found, -, lost⟩ := run_failedReconnect reached rfl ran broke
  exact ⟨reached, rfl, _, _, ran, broke, session, found, lost rfl⟩

/-- The server refuses the connection that is made anew.  The session is parked all
the same, and somebody else gets it. -/
theorem refusedReconnect_lent :
    (Pool.start usedPool.limits).run? beforehand = some usedPool ∧ usedPool.stage? 0 = none ∧
      ∃ errand failed returned lent, (Errand.mk usedPool {} []).run? 0 findsStale = some errand ∧
        errand.pool.session? 0 = some ⟨0, 0⟩ ∧
        errand.step? 0 (.reconnected (.error (.httpStatus "Get-PPD" 503))) = some failed ∧
        failed.step? 0 .go = some returned ∧ returned.pool.hasParked 0 = true ∧
        returned.run? 0 [.others (.arrive 8), .go, .others (.proceed 8), .others (.look 8)] =
          some lent ∧ lent.pool.session? 8 = some ⟨0, 0⟩ :=
  ⟨rfl, rfl, _, _, _, _, rfl, rfl, rfl, rfl, rfl, rfl, rfl⟩

end Errand

end PrintConnector
