import PrintConnector.Proofs.Pool.Errand

namespace PrintConnector

variable {α : Type} {maxAge who : Nat} {limits : Pool.Limits} {pool after : Pool}
  {exchange next : Exchange α} {attempt : Attempt α} {errand : Errand α}
  {event : Errand.Event α} {asked : Bool}

namespace Attempt

/-- The session was young enough, or connected anew by the same attempt. -/
def Request.IsFresh (maxAge : Nat) (request : Request) : Prop :=
  ∃ age, request.age = some age ∧ (age < maxAge ∨ request.renewed = true)

/-- The outcome says nothing against the session. -/
def trusts (attempt : Attempt α) : Bool :=
  match attempt.outcome with
  | some (some (.ok _)) => true
  | some (some (.error error)) => !error.isTransport
  | _ => false

/-- Failed, and not because the pool is closed. -/
def Fails (attempt : Attempt α) : Prop :=
  ∃ error, attempt.outcome = some (some (.error error)) ∧ error ≠ .poolClosed

/-- What an attempt used is accounted for. -/
structure Settled (maxAge : Nat) (attempt : Attempt α) : Prop where
  single : attempt.sessions.length ≤ 1 ∧ attempt.requests.length ≤ 1
  requests : ∀ request ∈ attempt.requests, request.IsFresh maxAge
  returned : attempt.returns.map (·.session) = attempt.sessions
  /-- A session is parked if the pool is open and the outcome speaks for it. -/
  disposed : ∀ back ∈ attempt.returns,
    back.parked = (back.poolOpen && attempt.trusts) ∧ back.closed = !back.parked

end Attempt

/-- What holds of an errand at any time. -/
structure Errand.Lawful (limits : Pool.Limits) (who : Nat) (errand : Errand α) : Prop where
  atMostTwo : errand.attempts.length ≤ 2
  retried : ∀ first second, errand.attempts = [second, first] → first.Fails
  requests : ∀ attempt ∈ errand.attempts, ∀ request ∈ attempt.requests,
    request.IsFresh limits.maxAge
  oneSlot : errand.pool.slotsOf who ≤ 1
  slots : errand.pool.free + errand.pool.held = limits.slots
  /-- It goes on of itself unless it waits for something. -/
  goesOn : errand.exchange.need errand.pool who = .nothing → (errand.step? who .go).isSome
  /-- While it waits it can be given up. -/
  droppable : errand.exchange.need errand.pool who ≠ .nothing →
    errand.exchange.need errand.pool who ≠ .over → (errand.step? who .abandon).isSome
  finished : ∀ outcome, errand.exchange.position = .finished outcome →
    errand.pool.slotsOf who = 0 ∧
      (∃ last earlier, errand.attempts = last :: earlier ∧ last.outcome = some outcome ∧
        (earlier = [] → ¬ last.Fails)) ∧
      ∀ attempt ∈ errand.attempts, attempt.Settled limits.maxAge

namespace Exchange

/-- Where an exchange stands, its borrower in the pool, and what the attempt under
way has done. -/
inductive Stands (maxAge : Nat) :
    Position α → Option Pool.Stage → Attempt α → Prop where
  | away : Stands maxAge .borrowing none {}
  | seeking {stage : Pool.Stage}
      (seeks : stage = .waiting ∨ stage = .called ∨ stage = .admitted ∨ stage = .connecting) :
      Stands maxAge .borrowing (some stage) {}
  | lent {session : Session} {broken : Bool} :
      Stands maxAge .borrowing (some (.borrowing session broken)) { sessions := [session.serial] }
  | checking {session : Session} :
      Stands maxAge .checking (some (.borrowing session true)) { sessions := [session.serial] }
  | reconnecting {session : Session} :
      Stands maxAge .reconnecting (some (.borrowing session true))
        { sessions := [session.serial] }
  | asking {session : Session} {request : Attempt.Request} (fresh : request.IsFresh maxAge) :
      Stands maxAge .asking (some (.borrowing session true))
        { sessions := [session.serial], renewed := request.renewed, requests := [request] }
  | returning {session : Session} {broken : Bool} {outcome : Option (Except Error α)}
      {attempt : Attempt α} (judged : broken = !attempt.trusts)
      (known : attempt.outcome = some outcome) (sessions : attempt.sessions = [session.serial])
      (single : attempt.requests.length ≤ 1)
      (fresh : ∀ request ∈ attempt.requests, request.IsFresh maxAge)
      (returns : attempt.returns = []) :
      Stands maxAge (.returning outcome) (some (.borrowing session broken)) attempt
  | leaving {stage : Pool.Stage} {outcome : Option (Except Error α)} {attempt : Attempt α}
      (known : attempt.outcome = some outcome)
      (left : stage = .emptied ∨ ∃ ticket, stage = .parked ticket ∨ stage = .leaving ticket)
      (settled : attempt.Settled maxAge) : Stands maxAge (.returning outcome) (some stage) attempt

/-- What a step of an exchange makes of the attempt under way. -/
inductive Progress (maxAge : Nat) (exchange next : Exchange α) (stage : Option Pool.Stage)
    (attempt : Attempt α) : Prop where
  | on (retried : next.retried = exchange.retried)
      (stands : Stands maxAge next.position stage attempt) (closed : attempt.closed = false)
  | ends {outcome : Option (Except Error α)} (gone : stage = none)
      (known : attempt.outcome = some outcome) (closed : attempt.closed = true)
      (settled : attempt.Settled maxAge) (concluded : next = exchange.conclude outcome)

open Errand (note)

theorem note_eq {old new : Option Pool.Stage} (found : pool.stage? who = old)
    (moved : after.stage? who = new) :
    note attempt who event asked pool after =
      let before := (old.bind Pool.Stage.session?).map (·.serial)
      let now := (new.bind Pool.Stage.session?).map (·.serial)
      let outcome := (attempt.outcome.or event.outcome?).or
        (if new.isNone then some (some (.error .poolClosed)) else none)
      { sessions := attempt.sessions ++ (if before = now then none else now).toList
        renewed := attempt.renewed || event.renews
        requests := attempt.requests ++ if asked then
          [⟨(new.bind Pool.Stage.session?).map (after.ageClock - ·.connectedAt),
            attempt.renewed || event.renews⟩] else []
        returns := attempt.returns ++ ((if before = now then none else before).map fun serial =>
          ⟨serial, !pool.isSealed, after.hasParked serial, after.hasClosed serial⟩).toList
        outcome
        closed := outcome.isSome && new.isNone } := by
  subst found moved
  rfl

theorem note_kept {old new : Session} {broken still : Bool}
    (found : pool.stage? who = some (.borrowing old broken))
    (moved : after.stage? who = some (.borrowing new still)) (same : new.serial = old.serial) :
    note attempt who event asked pool after =
      { attempt with
        renewed := attempt.renewed || event.renews
        requests := attempt.requests ++ if asked then
          [⟨some (after.ageClock - new.connectedAt), attempt.renewed || event.renews⟩] else []
        outcome := attempt.outcome.or event.outcome?
        closed := false } := by
  rw [note_eq found moved]
  simp [Pool.Stage.session?, same]

theorem note_returned {session : Session} {broken : Bool} {stage : Pool.Stage}
    (found : pool.stage? who = some (.borrowing session broken))
    (moved : after.stage? who = some stage) (empty : stage.session? = none) :
    note attempt who .go false pool after =
      { attempt with
        returns := attempt.returns ++ [⟨session.serial, !pool.isSealed,
          after.hasParked session.serial, after.hasClosed session.serial⟩]
        closed := false } := by
  have hand : (Pool.Stage.borrowing session broken).session? = some session := rfl
  rw [note_eq found moved]
  simp [hand, empty, Errand.Event.renews, Errand.Event.outcome?]

/-- The borrower moves on after its session, or leaves. -/
theorem note_idle {outcome : Option (Except Error α)} (before : pool.session? who = none)
    (now : after.session? who = none) (known : attempt.outcome = some outcome) :
    note attempt who .go false pool after =
      { attempt with closed := (after.stage? who).isNone } := by
  simp [note, before, now, known, Errand.Event.renews, Errand.Event.outcome?]

theorem settled_of_none (sessions : attempt.sessions = []) (requests : attempt.requests = [])
    (returns : attempt.returns = []) : attempt.Settled maxAge where
  single := by simp [sessions, requests]
  requests := by simp [requests]
  returned := by simp [sessions, returns]
  disposed := by simp [returns]

theorem progress_left (absent : after.stage? who = none) (empty : pool.session? who = none)
    (outcome : Option (Except Error α))
    (known : event.outcome? = some outcome ∨
      event.outcome? = none ∧ outcome = some (.error .poolClosed))
    (asks : asked = false) :
    Progress maxAge exchange (exchange.conclude outcome) none
      (note {} who event asked pool after) := by
  have none : (pool.stage? who).bind Pool.Stage.session? = none := empty
  have outcome_eq : (note {} who event asked pool after).outcome = some outcome := by
    rw [note_eq rfl absent]
    obtain known | ⟨unknown, rfl⟩ := known
    · simp [known]
    · simp [unknown]
  refine .ends rfl outcome_eq ?_ (settled_of_none ?_ ?_ ?_) rfl
  · rw [note_eq rfl absent] at outcome_eq ⊢
    simp only at outcome_eq ⊢
    rw [outcome_eq]
    rfl
  all_goals simp [note_eq rfl absent, none, asks]

theorem asks_conclude (outcome : Option (Except Error α)) :
    (exchange.conclude outcome).asks = false := by
  rcases outcome with _ | error | reply
  · rfl
  · cases last : exchange.retried || decide (error = .poolClosed) <;> simp [conclude, asks, last]
  · rfl

/-- On the way to a session an attempt has done nothing yet. -/
theorem progress_seek (distinct : pool.borrowers.Distinct)
    (position : exchange.position = .borrowing)
    (gone : (do
      let pool ← pool.seek? who
      if (pool.stage? who).isSome then return (pool, exchange)
      else return (pool, exchange.conclude (some (.error .poolClosed)))) = some (after, next)) :
    Progress maxAge exchange next (after.stage? who)
      (note {} who .go (next.asks && !exchange.asks) pool after) := by
  obtain ⟨sought, step, same⟩ := Option.bind_eq_some_iff.mp gone
  obtain ⟨empty, left | ⟨stage, found, seeks⟩ | ⟨session, found⟩⟩ :=
    Pool.stage_of_seek distinct step
  · simp only [left] at same
    obtain ⟨rfl, rfl⟩ := Prod.mk.inj (Option.some.inj same)
    rw [left]
    exact progress_left left empty _ (.inr ⟨rfl, rfl⟩) (by simp [asks_conclude])
  · simp only [found] at same
    obtain ⟨rfl, rfl⟩ := Prod.mk.inj (Option.some.inj same)
    have emptyHanded : stage.session? = none := by
      obtain rfl | rfl | rfl | rfl := seeks <;> rfl
    have none : (pool.stage? who).bind Pool.Stage.session? = none := empty
    have idle : note ({} : Attempt α) who .go (exchange.asks && !exchange.asks) pool sought =
        {} := by
      simp [note_eq rfl found, none, emptyHanded, Errand.Event.outcome?, Errand.Event.renews]
    rw [idle, found]
    exact .on rfl (position ▸ .seeking seeks) rfl
  · simp only [found] at same
    obtain ⟨rfl, rfl⟩ := Prod.mk.inj (Option.some.inj same)
    have none : (pool.stage? who).bind Pool.Stage.session? = none := empty
    have lent : note ({} : Attempt α) who .go (exchange.asks && !exchange.asks) pool sought =
        { sessions := [session.serial] } := by
      simp [note_eq rfl found, none, Pool.Stage.session?, Errand.Event.outcome?,
        Errand.Event.renews]
    rw [lent, found]
    exact .on rfl (position ▸ .lent) rfl

/-- The session in hand is judged by the outcome of the attempt, and goes back. -/
theorem progress_settle {session : Session} {old : Bool} {outcome : Except Error α}
    (found : pool.stage? who = some (.borrowing session old))
    (settled : exchange.settle? pool who outcome = some (after, next))
    (known : attempt.outcome = none) (causes : event.outcome? = some (some outcome))
    (sessions : attempt.sessions = [session.serial]) (single : attempt.requests.length ≤ 1)
    (fresh : ∀ request ∈ attempt.requests, request.IsFresh maxAge)
    (returns : attempt.returns = []) :
    Progress maxAge exchange next (after.stage? who)
      (note attempt who event (next.asks && !exchange.asks) pool after) := by
  obtain ⟨judged, step, same⟩ := Option.bind_eq_some_iff.mp settled
  obtain ⟨rfl, rfl⟩ := Prod.mk.inj (Option.some.inj same)
  have moved := Pool.stage_of_judge found step
  rw [note_kept found moved rfl, moved]
  have outcome_eq : attempt.outcome.or event.outcome? = some (some outcome) := by
    rw [known, causes]
    rfl
  refine .on rfl (.returning ?_ outcome_eq sessions ?_ ?_ returns) rfl
  · simp only [Attempt.trusts, outcome_eq]
    cases outcome <;> simp [condemns]
  · simpa [asks] using single
  · simpa [asks] using fresh

/-- Without its session a borrower leaves, at once or after the start of the
reaper. -/
theorem stage_of_release {stage : Pool.Stage} (distinct : pool.borrowers.Distinct)
    (found : pool.stage? who = some stage) (empty : stage.session? = none)
    (released : release? pool who = some after) :
    after.stage? who = none ∨ ∃ ticket, after.stage? who = some (.leaving ticket) := by
  unfold release? at released
  split at released
  · rename_i held
    cases found.symm.trans held
    contradiction
  · rename_i held
    simp only [Pool.freeSlot?, held] at released
    cases released
    exact .inl (Pool.stage?_dismiss_handSlot distinct)
  · rename_i ticket held
    simp only [Pool.freeSlot?, held] at released
    cases released
    have moved := Pool.stage?_moveTo_self held (.leaving ticket)
    refine .inr ⟨ticket, ?_⟩
    rw [Pool.stage?_handSlot distinct.update (by simp [moved]), moved]
  · rename_i held
    simp only [Pool.startReaper?, held] at released
    cases released
    exact .inl Pool.stage?_dismiss_self
  · contradiction

/-- What the exchange does of itself, from each place where it can stand. -/
theorem progress_go (balanced : Pool.Balanced limits 0 pool) (ages : pool.limits = limits)
    (stands : Stands limits.maxAge exchange.position (pool.stage? who) attempt)
    (gone : exchange.go? pool who = some (after, next)) :
    Progress limits.maxAge exchange next (after.stage? who)
      (note attempt who .go (next.asks && !exchange.asks) pool after) := by
  generalize position : exchange.position = place at stands
  generalize found : pool.stage? who = stage at stands
  cases stands with
  | away =>
      simp only [go?, position, found] at gone
      exact progress_seek balanced.borrowers position gone
  | seeking seeks =>
      unfold go? at gone
      obtain rfl | rfl | rfl | rfl := seeks <;> simp only [position, found] at gone <;>
        exact progress_seek balanced.borrowers position gone
  | @lent session broken =>
      simp only [go?, position, found] at gone
      obtain ⟨judged, step, same⟩ := Option.bind_eq_some_iff.mp gone
      obtain ⟨rfl, rfl⟩ := Prod.mk.inj (Option.some.inj same)
      have moved := Pool.stage_of_judge found step
      rw [note_kept found moved rfl, moved]
      refine .on rfl ?_ rfl
      simpa [asks, Errand.Event.renews, Errand.Event.outcome?] using .checking
  | @checking session =>
      simp only [go?, position, found] at gone
      obtain ⟨rfl, rfl⟩ := Prod.mk.inj (Option.some.inj gone)
      rw [note_kept found found rfl, found]
      cases stale : pool.isStale session with
      | true =>
          simp only [if_true, asks, Errand.Event.renews, Errand.Event.outcome?]
          exact .on rfl (by simpa using .reconnecting) rfl
      | false =>
          have young : pool.ageClock - session.connectedAt < limits.maxAge := by
            simpa [Pool.isStale, ages] using stale
          have fresh : Attempt.Request.IsFresh limits.maxAge
              ⟨some (pool.ageClock - session.connectedAt), false⟩ := ⟨_, rfl, .inl young⟩
          have first : exchange.asks = false := by simp [asks, position]
          rw [first]
          exact .on rfl (.asking fresh) rfl
  | reconnecting => simp [go?, position, found] at gone
  | asking => simp [go?, position, found] at gone
  | @returning session broken outcome _ judged known sessions single fresh returns =>
      simp only [go?, position, found, release?] at gone
      obtain ⟨released, step, same⟩ := Option.bind_eq_some_iff.mp gone
      -- Balance tells where the session went: to the shelf or among the closed, never both.
      obtain ⟨left, parked, closed⟩ := balanced.returned found step
      obtain ⟨stage, moved, empty, leaves⟩ : ∃ stage, released.stage? who = some stage ∧
          stage.session? = none ∧
          (stage = .emptied ∨ ∃ ticket, stage = .parked ticket ∨ stage = .leaving ticket) := by
        obtain moved | ⟨ticket, moved⟩ := left
        · exact ⟨_, moved, rfl, .inl rfl⟩
        · exact ⟨_, moved, rfl, .inr ⟨ticket, .inl rfl⟩⟩
      simp only [moved, Option.isSome_some, if_true] at same
      obtain ⟨rfl, rfl⟩ := Prod.mk.inj (Option.some.inj same)
      rw [Bool.and_not_self, note_returned found moved empty, moved]
      refine .on rfl (position ▸ .leaving known leaves ⟨?_, fresh, ?_, ?_⟩) rfl
      · simpa [sessions] using single
      · simp [returns, sessions]
      · simp [returns, parked, closed, judged, Attempt.trusts]
  | @leaving stage outcome _ known left settled =>
      have empty : stage.session? = none := by
        obtain rfl | ⟨ticket, rfl | rfl⟩ := left <;> rfl
      have before : pool.session? who = none := by
        rw [Pool.session?, found]
        exact empty
      obtain ⟨released, step, same⟩ : ∃ released, release? pool who = some released ∧
          (if (released.stage? who).isSome then some (released, exchange)
            else some (released, exchange.conclude outcome)) = some (after, next) := by
        obtain rfl | ⟨ticket, rfl | rfl⟩ := left <;> simp only [go?, position, found] at gone <;>
          exact Option.bind_eq_some_iff.mp gone
      -- Only a parked session makes the borrower wait once more, for the start of the reaper.
      obtain absent | ⟨ticket, moved⟩ := stage_of_release balanced.borrowers found empty step
      · have now : released.session? who = none := by rw [Pool.session?, absent]; rfl
        simp only [absent] at same
        obtain ⟨rfl, rfl⟩ := Prod.mk.inj (Option.some.inj same)
        rw [asks_conclude, Bool.false_and, note_idle before now known, absent]
        exact .ends rfl known rfl { settled with } rfl
      · have now : released.session? who = none := by rw [Pool.session?, moved]; rfl
        simp only [moved] at same
        obtain ⟨rfl, rfl⟩ := Prod.mk.inj (Option.some.inj same)
        rw [Bool.and_not_self, note_idle before now known, moved]
        exact .on rfl (position ▸ .leaving known (.inr ⟨ticket, .inr rfl⟩) { settled with }) rfl

theorem progress_connected (balanced : Pool.Balanced limits 0 pool)
    {result : Except Error Unit}
    (stands : Stands limits.maxAge exchange.position (pool.stage? who) attempt)
    (connected : exchange.connected? pool who result = some (after, next)) :
    Progress limits.maxAge exchange next (after.stage? who)
      (note attempt who (.connected result) (next.asks && !exchange.asks) pool after) := by
  generalize position : exchange.position = place at stands
  generalize found : pool.stage? who = stage at stands
  cases stands with
  | seeking seeks =>
      obtain rfl | rfl | rfl | rfl := seeks
      case inr.inr.inr =>
        have before : pool.session? who = none := by rw [Pool.session?, found]; rfl
        cases result with
        | ok =>
            simp only [connected?, position, Pool.connected?, found] at connected
            cases connected
            have opened : Pool.stage? { pool with opened := pool.opened + 1 } who =
              some .connecting := found
            have moved := Pool.stage?_moveTo_self opened
              (.borrowing ⟨pool.opened, pool.ageClock⟩ false)
            rw [Bool.and_not_self, note_eq found moved, moved]
            exact .on rfl (position ▸ .lent) rfl
        | error error =>
            simp only [connected?, position, found] at connected
            obtain ⟨withdrawn, step, same⟩ := Option.bind_eq_some_iff.mp connected
            obtain ⟨rfl, rfl⟩ := Prod.mk.inj (Option.some.inj same)
            obtain ⟨empty, left⟩ := Pool.stage_of_withdraw balanced.borrowers step
            rw [left]
            exact progress_left left empty _ (.inl rfl) (by simp [asks_conclude])
      all_goals cases result <;> simp [connected?, position, Pool.connected?, found] at connected
  | _ => cases result <;> simp [connected?, position, Pool.connected?, found] at connected

theorem progress_reconnected {result : Except Error Unit}
    (stands : Stands maxAge exchange.position (pool.stage? who) attempt)
    (reconnected : exchange.reconnected? pool who result = some (after, next)) :
    Progress maxAge exchange next (after.stage? who)
      (note attempt who (.reconnected result) (next.asks && !exchange.asks) pool after) := by
  generalize position : exchange.position = place at stands
  generalize found : pool.stage? who = stage at stands
  cases stands with
  | @reconnecting session =>
      cases result with
      | ok =>
          simp only [reconnected?, position, Pool.renew?, found] at reconnected
          cases reconnected
          have moved := Pool.stage?_moveTo_self found
            (.borrowing { session with connectedAt := pool.ageClock } true)
          have fresh (age : Nat) : Attempt.Request.IsFresh maxAge ⟨some age, true⟩ :=
            ⟨age, rfl, .inr rfl⟩
          have first : exchange.asks = false := by simp [asks, position]
          rw [note_kept found moved rfl, moved, first]
          exact .on rfl (.asking (fresh _)) rfl
      | error error =>
          simp only [reconnected?, position] at reconnected
          exact progress_settle found reconnected rfl rfl rfl (by simp) (by simp) rfl
  | _ => simp [reconnected?, position] at reconnected

theorem progress_answered {result : Except Error α}
    (stands : Stands maxAge exchange.position (pool.stage? who) attempt)
    (answered : exchange.answered? pool who result = some (after, next)) :
    Progress maxAge exchange next (after.stage? who)
      (note attempt who (.answered result) (next.asks && !exchange.asks) pool after) := by
  generalize position : exchange.position = place at stands
  generalize found : pool.stage? who = stage at stands
  cases stands with
  | asking fresh =>
      simp only [answered?, position] at answered
      exact progress_settle found answered rfl rfl rfl (by simp) (by simpa using fresh) rfl
  | _ => simp [answered?, position] at answered

theorem progress_abandon (balanced : Pool.Balanced limits 0 pool)
    (stands : Stands limits.maxAge exchange.position (pool.stage? who) attempt)
    (abandoned : exchange.abandon? pool who = some (after, next)) :
    Progress limits.maxAge exchange next (after.stage? who)
      (note attempt who .abandon (next.asks && !exchange.asks) pool after) := by
  generalize position : exchange.position = place at stands
  generalize found : pool.stage? who = stage at stands
  cases stands with
  | away =>
      simp only [abandon?, position, found] at abandoned
      obtain ⟨rfl, rfl⟩ := Prod.mk.inj (Option.some.inj abandoned)
      have empty : pool.session? who = none := by rw [Pool.session?, found]; rfl
      rw [found]
      exact progress_left found empty none (.inl rfl) rfl
  | seeking seeks =>
      obtain ⟨withdrawn, step, same⟩ : ∃ withdrawn, pool.withdraw? who = some withdrawn ∧
          some (withdrawn, { exchange with position := .finished none }) = some (after, next) := by
        obtain rfl | rfl | rfl | rfl := seeks <;>
          simp only [abandon?, position, found] at abandoned <;>
          exact Option.bind_eq_some_iff.mp abandoned
      obtain ⟨rfl, rfl⟩ := Prod.mk.inj (Option.some.inj same)
      obtain ⟨empty, left⟩ := Pool.stage_of_withdraw balanced.borrowers step
      rw [left]
      exact progress_left left empty none (.inl rfl) rfl
  -- A borrowed session is judged at once, so there is no waiting to be given up here.
  | lent => simp [abandon?, position, found, Pool.withdraw?] at abandoned
  | reconnecting =>
      simp only [abandon?, position] at abandoned
      obtain ⟨rfl, rfl⟩ := Prod.mk.inj (Option.some.inj abandoned)
      rw [note_kept found found rfl, found]
      exact .on rfl (.returning rfl rfl rfl (by simp [asks]) (by simp [asks]) rfl) rfl
  | asking fresh =>
      simp only [abandon?, position] at abandoned
      obtain ⟨rfl, rfl⟩ := Prod.mk.inj (Option.some.inj abandoned)
      rw [note_kept found found rfl, found]
      exact .on rfl (.returning rfl rfl rfl (by simp [asks]) (by simpa [asks] using fresh) rfl) rfl
  | _ => simp [abandon?, position] at abandoned

/-- Being handed a slot is all that can happen to a borrower without its doing. -/
theorem Stands.leftAlone {position : Position α} {stage later : Option Pool.Stage}
    (stands : Stands maxAge position stage attempt)
    (alone : later = stage ∨ stage = some .waiting ∧ later = some .called) :
    Stands maxAge position later attempt := by
  obtain rfl | ⟨rfl, rfl⟩ := alone
  · exact stands
  · cases stands with
    | seeking => exact .seeking (by simp)
    | leaving _ left _ => simp at left

theorem Stands.requests {position : Position α} {stage : Option Pool.Stage}
    (stands : Stands maxAge position stage attempt) :
    ∀ request ∈ attempt.requests, request.IsFresh maxAge := by
  cases stands with
  | asking fresh => simpa using fresh
  | returning _ _ _ _ fresh _ => exact fresh
  | leaving _ _ settled => exact settled.requests
  | _ => simp

theorem conclude_cases (exchange : Exchange α) (outcome : Option (Except Error α)) :
    ((exchange.conclude outcome).position = .finished outcome ∧
      (exchange.retried = false → ∀ error, outcome = some (.error error) → error = .poolClosed)) ∨
    exchange.retried = false ∧ (∃ error, outcome = some (.error error) ∧ error ≠ .poolClosed) ∧
      exchange.conclude outcome = { retried := true, position := .borrowing } := by
  rcases outcome with _ | error | reply
  · exact .inl ⟨rfl, fun _ _ failed => by contradiction⟩
  · cases retried : exchange.retried with
    | true => exact .inl ⟨by simp [conclude, retried], fun once => by contradiction⟩
    | false =>
        by_cases closed : error = .poolClosed
        · refine .inl ⟨by simp [conclude, closed], fun _ other failed => ?_⟩
          cases failed
          exact closed
        · exact .inr ⟨rfl, ⟨error, rfl, closed⟩, by simp [conclude, retried, closed]⟩
  · exact .inl ⟨rfl, fun _ _ failed => by simp at failed⟩

theorem unfinished_of_stands {outcome : Option (Except Error α)} {position : Position α}
    {stage : Option Pool.Stage} (stands : Stands maxAge position stage attempt) :
    position ≠ .finished outcome := by
  rintro rfl
  cases stands

/-- What waits for nothing goes on, and what waits for something can be given
up. -/
theorem act_of_need (stands : Stands maxAge exchange.position (pool.stage? who) attempt) :
    (exchange.need pool who = .nothing → (exchange.go? pool who).isSome) ∧
      (exchange.need pool who ≠ .nothing → (exchange.abandon? pool who).isSome) := by
  generalize position : exchange.position = place at stands
  generalize found : pool.stage? who = stage at stands
  have bind {first : Option Pool} {then_ : Pool → Option (Pool × Exchange α)}
      (begins : first.isSome) (ends : ∀ pool, (then_ pool).isSome) :
      (first >>= then_).isSome := by
    obtain ⟨middle, step⟩ := Option.isSome_iff_exists.mp begins
    rw [step]
    exact ends middle
  have leaves {outcome : Option (Except Error α)} (released : Pool) :
      (if (released.stage? who).isSome then some (released, exchange)
        else some (released, exchange.conclude outcome)).isSome := by
    split <;> rfl
  cases stands with
  | away =>
      refine ⟨fun _ => ?_, fun waits => absurd (by simp [need, position, found]) waits⟩
      simp only [go?, position, found]
      refine bind ?_ leaves
      simp only [Pool.seek?, found, Pool.arrive?]
      split <;> [rfl; (split <;> rfl)]
  | seeking seeks =>
      obtain rfl | rfl | rfl | rfl := seeks
      · cases gate : pool.gateOpen with
        | true => simp [need, abandon?, position, found, gate, Pool.withdraw?]
        | false =>
            refine ⟨fun _ => ?_, fun waits => absurd (by simp [need, position, found, gate]) waits⟩
            simp only [go?, position, found]
            exact bind (by simp [Pool.seek?, found, Pool.proceed?, gate]) leaves
      · refine ⟨fun _ => ?_, fun waits => absurd (by simp [need, position, found]) waits⟩
        simp only [go?, position, found]
        refine bind ?_ leaves
        simp only [Pool.seek?, found, Pool.proceed?]
        split <;> rfl
      · refine ⟨fun _ => ?_, fun waits => absurd (by simp [need, position, found]) waits⟩
        simp only [go?, position, found]
        refine bind ?_ leaves
        simp only [Pool.seek?, found, Pool.look?]
        cases pool.parked <;> rfl
      · simp [need, abandon?, position, found, Pool.withdraw?]
  | lent => simp [need, go?, position, found, Pool.judge?]
  | checking => simp [need, go?, position, found]
  | reconnecting => simp [need, abandon?, position]
  | asking => simp [need, abandon?, position]
  | returning =>
      refine ⟨fun _ => ?_, fun waits => absurd (by simp [need, position, found]) waits⟩
      simp only [go?, position, found]
      refine bind ?_ leaves
      simp only [release?, found, Pool.giveBack?]
      split <;> rfl
  | leaving _ left =>
      obtain rfl | ⟨ticket, rfl | rfl⟩ := left
      all_goals
        refine ⟨fun _ => ?_, fun waits => absurd (by simp [need, position, found]) waits⟩
        simp only [go?, position, found]
        exact bind (by simp [release?, found, Pool.freeSlot?, Pool.startReaper?]) leaves

end Exchange

namespace Errand

open Exchange (Progress Stands)

theorem act_turns {errand : Errand α} (acted : event.act? errand who = some (after, next)) :
    Pool.Turns (some who) errand.pool after := by
  cases event with
  | go => exact (Exchange.trades_go acted).1.turns
  | connected => exact (Exchange.trades_connected acted).1.turns
  | reconnected => exact (Exchange.trades_reconnected acted).1.turns
  | answered => exact (Exchange.trades_answered acted).1.turns
  | abandon => exact (Exchange.trades_abandon acted).turns
  | others => contradiction

theorem progress_act (balanced : Pool.Balanced limits 0 errand.pool)
    (ages : errand.pool.limits = limits)
    (stands : Stands limits.maxAge errand.exchange.position (errand.pool.stage? who) attempt)
    (acted : event.act? errand who = some (after, next)) :
    Progress limits.maxAge errand.exchange next (after.stage? who)
      (note attempt who event (next.asks && !errand.exchange.asks) errand.pool after) := by
  cases event with
  | go => exact Exchange.progress_go balanced ages stands acted
  | connected => exact Exchange.progress_connected balanced stands acted
  | reconnected => exact Exchange.progress_reconnected stands acted
  | answered => exact Exchange.progress_answered stands acted
  | abandon => exact Exchange.progress_abandon balanced stands acted
  | others => contradiction

/-- The attempts before the one under way. -/
inductive History (maxAge : Nat) : Bool → List (Attempt α) → Prop where
  | first : History maxAge false []
  | second {first : Attempt α} (closed : first.closed = true) (settled : first.Settled maxAge)
      (fails : first.Fails) : History maxAge true [first]

theorem History.earlier_eq {earlier : List (Attempt α)} (history : History maxAge false earlier) :
    earlier = [] := by
  cases history
  rfl

theorem current_cons {last : Attempt α} {others : List (Attempt α)} :
    (Errand.mk pool exchange (last :: others)).current = if last.closed then {} else last :=
  rfl

theorem earlier_cons {last : Attempt α} {others : List (Attempt α)} :
    (Errand.mk pool exchange (last :: others)).earlier =
      if last.closed then last :: others else others :=
  rfl

/-- What every step of an errand keeps. -/
inductive Course (limits : Pool.Limits) (who : Nat) (errand : Errand α) : Prop where
  | running
      (stands : Stands limits.maxAge errand.exchange.position (errand.pool.stage? who)
        errand.current)
      (history : History limits.maxAge errand.exchange.retried errand.earlier)
  | ended {outcome : Option (Except Error α)} {retried : Bool} {last : Attempt α}
      {earlier : List (Attempt α)}
      (position : errand.exchange.position = .finished outcome)
      (absent : errand.pool.stage? who = none) (attempts : errand.attempts = last :: earlier)
      (settled : last.Settled limits.maxAge) (known : last.outcome = some outcome)
      (history : History limits.maxAge retried earlier) (final : retried = false → ¬ last.Fails)

structure Sound (limits : Pool.Limits) (who : Nat) (errand : Errand α) : Prop where
  balanced : Pool.Balanced limits 0 errand.pool
  setup : errand.pool.limits = limits
  course : Course limits who errand

theorem Sound.others (sound : Sound limits who errand) {action : Pool.Action}
    (apart : action.borrower? ≠ some who) (stepped : errand.pool.step? action = some after) :
    Sound limits who { errand with pool := after } := by
  obtain ⟨-, same, alone⟩ :=
    (Pool.changes_of_step stepped).leavesAlone sound.balanced.borrowers
  have mine := alone who apart
  refine ⟨sound.balanced.step stepped, same.trans sound.setup, ?_⟩
  cases sound.course with
  | running stands history => exact .running (stands.leftAlone mine) history
  | ended position absent attempts settled known history final =>
      refine .ended position ?_ attempts settled known history final
      obtain still | ⟨waits, -⟩ := mine
      · exact still.trans absent
      · rw [absent] at waits
        contradiction

theorem Sound.own (sound : Sound limits who errand)
    (acted : event.act? errand who = some (after, next)) :
    Sound limits who
      { pool := after, exchange := next,
        attempts := note errand.current who event (next.asks && !errand.exchange.asks)
          errand.pool after :: errand.earlier } := by
  have turns := act_turns acted
  have same : after.limits = errand.pool.limits := turns.limits sound.balanced.borrowers
  refine ⟨turns.balanced sound.balanced, same.trans sound.setup, ?_⟩
  cases sound.course with
  | running stands history =>
      cases progress_act sound.balanced sound.setup stands acted with
      | on retried stands closed =>
          refine .running ?_ ?_
          · rw [current_cons, closed]
            exact stands
          · rw [earlier_cons, closed]
            exact retried ▸ history
      | ends gone known closed settled concluded =>
          subst concluded
          obtain ⟨position, final⟩ | ⟨once, ⟨error, failed, other⟩, again⟩ :=
            Exchange.conclude_cases errand.exchange _
          · refine .ended position gone rfl settled known history ?_
            rintro once ⟨error, fails, other⟩
            exact other (final once error (Option.some.inj (known.symm.trans fails)))
          · -- The failed attempt joins the history, and the next one begins from nothing.
            have alone : errand.earlier = [] := (once ▸ history).earlier_eq
            refine .running ?_ ?_
            · rw [current_cons, closed, again, gone]
              exact .away
            · have second : (errand.exchange.conclude _).retried = true :=
                congrArg Exchange.retried again
              rw [earlier_cons, closed, alone, second]
              exact .second closed settled ⟨error, known.trans (congrArg some failed), other⟩
  | ended position =>
      have none : event.act? errand who = none := by
        cases event <;> simp [Event.act?, Exchange.go?, Exchange.connected?, Exchange.reconnected?,
          Exchange.answered?, Exchange.abandon?, position]
      rw [none] at acted
      contradiction

theorem Sound.step {next : Errand α} (sound : Sound limits who errand)
    (stepped : errand.step? who event = some next) : Sound limits who next := by
  cases event with
  | others action =>
      simp only [step?] at stepped
      split at stepped
      · contradiction
      · rename_i apart
        obtain ⟨after, step, rfl⟩ := Option.map_eq_some_iff.mp stepped
        exact sound.others apart step
  | _ =>
      obtain ⟨⟨after, next⟩, acted, rfl⟩ := Option.map_eq_some_iff.mp stepped
      exact sound.own acted

theorem Sound.run {next : Errand α} {events : List (Event α)} (sound : Sound limits who errand)
    (ran : errand.run? who events = some next) : Sound limits who next := by
  induction events generalizing errand with
  | nil =>
      cases ran
      exact sound
  | cons event events ih =>
      rw [run?, List.foldlM_cons] at ran
      obtain ⟨middle, stepped, rest⟩ := Option.bind_eq_some_iff.mp ran
      exact ih (sound.step stepped) rest

theorem attempts_cases (errand : Errand α) :
    errand.attempts = errand.earlier ∨ errand.attempts = errand.current :: errand.earlier := by
  unfold current earlier
  split
  · rename_i none
    exact .inl none
  · rename_i last others some
    split
    · exact .inl some
    · exact .inr some

theorem History.settled {retried : Bool} {earlier : List (Attempt α)}
    (history : History maxAge retried earlier) : ∀ attempt ∈ earlier, attempt.Settled maxAge := by
  cases history with
  | first => simp
  | second _ settled _ => simpa using settled

theorem History.length_le {retried : Bool} {earlier : List (Attempt α)}
    (history : History maxAge retried earlier) : earlier.length ≤ 1 := by
  cases history <;> simp

theorem History.fails {retried : Bool} {earlier : List (Attempt α)}
    (history : History maxAge retried earlier) {first : Attempt α} (member : first ∈ earlier) :
    first.Fails := by
  cases history with
  | first => contradiction
  | second _ _ fails => rwa [List.mem_singleton.mp member]

theorem Sound.lawful (sound : Sound limits who errand) : errand.Lawful limits who := by
  have oneSlot := Pool.slotsOf_le sound.balanced.borrowers who
  have slots : errand.pool.free + errand.pool.held = limits.slots := sound.balanced.slots
  have acts {event : Event α} (own : ∀ action, event ≠ .others action)
      (acted : (event.act? errand who).isSome) : (errand.step? who event).isSome := by
    cases event with
    | others action => exact absurd rfl (own action)
    | _ => exact (Option.isSome_map ..).trans acted
  have goesOn (idle : errand.exchange.need errand.pool who = .nothing) :
      (errand.step? who .go).isSome := by
    cases sound.course with
    | running stands => exact acts (by simp) ((Exchange.act_of_need stands).1 idle)
    | ended position => simp [Exchange.need, position] at idle
  have droppable (waits : errand.exchange.need errand.pool who ≠ .nothing)
      (unfinished : errand.exchange.need errand.pool who ≠ .over) :
      (errand.step? who .abandon).isSome := by
    cases sound.course with
    | running stands => exact acts (by simp) ((Exchange.act_of_need stands).2 waits)
    | ended position => simp [Exchange.need, position] at unfinished
  cases sound.course with
  | running stands history =>
      have bound := history.length_le
      refine ⟨?_, ?_, ?_, oneSlot, slots, goesOn, droppable, fun outcome position => ?_⟩
      · obtain whole | whole := errand.attempts_cases <;> rw [whole]
        · omega
        · rw [List.length_cons]
          omega
      · -- Two attempts are one before and one under way, since the history has one at most.
        intro first second both
        refine history.fails ?_
        obtain whole | whole := errand.attempts_cases <;> rw [whole] at both
        · rw [both, List.length_cons, List.length_singleton] at bound
          omega
        · rw [(List.cons.inj both).2]
          exact List.mem_singleton_self first
      · obtain whole | whole := errand.attempts_cases <;> rw [whole]
        · exact fun attempt member => (history.settled attempt member).requests
        · exact List.forall_mem_cons.mpr
            ⟨stands.requests, fun attempt member => (history.settled attempt member).requests⟩
      · exact absurd position (Exchange.unfinished_of_stands stands)
  | ended position absent attempts settled known history final =>
      have bound := history.length_le
      have all : ∀ attempt ∈ errand.attempts, attempt.Settled limits.maxAge := by
        rw [attempts]
        exact List.forall_mem_cons.mpr ⟨settled, history.settled⟩
      refine ⟨?_, ?_, fun attempt member => (all attempt member).requests, oneSlot, slots, goesOn,
        droppable, ?_⟩
      · rw [attempts, List.length_cons]
        omega
      · intro first second both
        rw [attempts] at both
        refine history.fails ?_
        rw [(List.cons.inj both).2]
        exact List.mem_singleton_self first
      · intro outcome ended
        cases position.symm.trans ended
        refine ⟨Pool.slotsOf_absent absent, ⟨_, _, attempts, known, ?_⟩, all⟩
        rintro rfl
        cases history
        exact final rfl

/-- An exchange takes its steps in a pool that was used before and that others use
meanwhile.  Whatever comes of its attempts, and wherever it is given up, it
keeps to its two attempts and its one slot, and gives back all it took. -/
theorem run_lawful {actions : List Pool.Action} {pool : Pool} {events : List (Event α)}
    {errand : Errand α} (reached : (Pool.start limits).run? actions = some pool)
    (absent : pool.stage? who = none) (ran : (Errand.mk pool {} []).run? who events = some errand) :
    errand.Lawful limits who := by
  have balanced := (Pool.start_balanced limits).run reached
  have setup : pool.limits = limits :=
    Pool.limits_of_run (Pool.start_balanced limits).borrowers rfl reached
  have stands : Stands limits.maxAge .borrowing (pool.stage? who) ({} : Attempt α) :=
    absent ▸ .away
  exact (Sound.run ⟨balanced, setup, .running stands .first⟩ ran).lawful

/-- Somebody parks a session, which grows too old. -/
def beforehand : List Pool.Action :=
  [.arrive 7, .look 7, .connected 7, .giveBack 7, .freeSlot 7, .startReaper 7, .age 200]

/-- The pool after that. -/
def usedPool : Pool where
  limits := ⟨1, 1000, 100, 1000⟩
  parked := [(0, ⟨0, 0⟩)]
  nextTicket := 1
  reapers := [(0, 1000)]
  opened := 1
  ageClock := 200

/-- The request fails on that session, somebody else is faster at the only slot,
and the second attempt is given up while it waits for its answer. -/
def failsThenGivenUp : List (Event Nat) :=
  [.go, .go, .go, .go, .reconnected (.ok ()), .answered (.error (.transport "reset")),
    .others (.arrive 8), .go, .go, .go, .others (.withdraw 8), .go, .go, .connected (.ok ()), .go,
    .go, .abandon, .go, .go]

theorem failsThenGivenUp_lawful :
    (Pool.start usedPool.limits).run? beforehand = some usedPool ∧ usedPool.stage? 0 = none ∧
      ∃ errand, (Errand.mk usedPool {} []).run? 0 failsThenGivenUp = some errand ∧
        errand.exchange.position = .finished none ∧ errand.attempts.length = 2 ∧
        errand.Lawful usedPool.limits 0 := by
  have reached : (Pool.start usedPool.limits).run? beforehand = some usedPool := rfl
  have ran : (Errand.mk usedPool {} []).run? 0 failsThenGivenUp = some _ := rfl
  exact ⟨reached, rfl, _, ran, rfl, rfl, run_lawful reached rfl ran⟩

end Errand

end PrintConnector
