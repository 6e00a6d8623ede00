import PrintConnector.Proofs.Service.Career

namespace PrintConnector

open Service (Event)

theorem Exchange.Advances.trades {α : Type} {exchange next : Exchange α} {pool last : Pool}
    {event : Event} {who : Nat} (advanced : exchange.Advances pool who event last next) :
    exchange.Trades pool who last next ∧
      (event ≠ .abandon who → next.isGivenUp = true → exchange.isGivenUp = true) := by
  cases advanced with
  | go gone =>
      obtain ⟨trades, keeps⟩ := Exchange.trades_go gone
      exact ⟨trades, fun _ => keeps⟩
  | connected connected =>
      obtain ⟨trades, keeps⟩ := Exchange.trades_connected connected
      exact ⟨trades, fun _ => keeps⟩
  | reconnected reconnected =>
      obtain ⟨trades, going⟩ := Exchange.trades_reconnected reconnected
      exact ⟨trades, fun _ given => by simp [going] at given⟩
  | failed answered =>
      obtain ⟨trades, going⟩ := Exchange.trades_answered answered
      exact ⟨trades, fun _ given => by simp [going] at given⟩
  | abandoned abandoned =>
      exact ⟨Exchange.trades_abandon abandoned, fun other => absurd rfl other⟩

namespace Service

variable {service before after : Service} {event : Event} {who : Nat} {call : Call}
  {request : Request} {phase next : Phase} {result : Result}

/-- Phases with an exchange under way. -/
def Phase.isLent : Phase → Bool
  | .fetching _ exchange => !exchange.isOver
  | .asking _ exchange => !exchange.isOver
  | _ => false

/-- Phases of a call that was given up. -/
def Phase.isGivenUp : Phase → Bool
  | .fetching _ exchange => exchange.isGivenUp
  | .asking _ exchange => exchange.isGivenUp
  | .discarding .abandoned | .discarded .abandoned | .finished .abandoned => true
  | _ => false

/-- Phases of a call that has shut the gate of the pool. -/
def Phase.hasShut : Phase → Bool
  | .sealing | .finished .shutDown => true
  | _ => false

/-- What a step of a call does with the pool. -/
inductive Deals (before : Service) (event : Event) (who : Nat) (after : Service) : Prop where
  | enter {request : Request} (found : after.call? who = some ⟨request, .starting⟩)
      (new : before.call? who = none) (pool : after.pool = before.pool)
  | apart {request : Request} {phase next : Phase}
      (asked : before.call? who = some ⟨request, phase⟩)
      (found : after.call? who = some ⟨request, next⟩) (pool : after.pool = before.pool)
      (unlent : phase.isLent = false) (shuts : next.hasShut = true → phase = next)
      (keeps : event ≠ .abandon who → next.isGivenUp = true → phase.isGivenUp = true)
  | trade {request : Request} {phase next : Phase}
      (asked : before.call? who = some ⟨request, phase⟩)
      (found : after.call? who = some ⟨request, next⟩)
      (turns : before.pool.Turns (some who) after.pool)
      (leaves : next.isLent = false → after.pool.hasBorrower who = false)
      (shuts : next.hasShut = false)
      (keeps : event ≠ .abandon who → next.isGivenUp = true → phase.isGivenUp = true)
  | shutGate {request : Request} (asked : before.call? who = some ⟨request, .discarded .shutDown⟩)
      (found : after.call? who = some ⟨request, .sealing⟩)
      (pool : after.pool = before.pool.shutGate)
  | sealUp {request : Request} (asked : before.call? who = some ⟨request, .sealing⟩)
      (found : after.call? who = some ⟨request, .finished .shutDown⟩)
      (pool : after.pool = before.pool.sealUp)

theorem Deals.plain (asked : before.call? who = some ⟨request, phase⟩)
    (found : after.call? who = some ⟨request, next⟩) (pool : after.pool = before.pool)
    (unlent : phase.isLent = false) (unshut : next.hasShut = false)
    (going : next.isGivenUp = false) : Deals before event who after :=
  .apart asked found pool unlent (fun shuts => by simp [unshut] at shuts)
    fun _ given => by simp [going] at given

theorem finish_pool : (service.finish who result).pool = service.pool := by
  unfold finish
  split <;> rfl

theorem discardStep_pool {entries : List Nat} :
    (service.discardStep who entries).pool = service.pool := by
  obtain ⟨loosened, unlocked⟩ := unlockAll_eq service who entries
  unfold discardStep acknowledge
  dsimp only
  rw [unlocked]
  split <;> rfl

theorem Ends.deals (ends : Ends service who event request phase result) :
    phase.isLent = false ∧ (Phase.finished result).hasShut = false ∧
      (event ≠ .abandon who → (Phase.finished result).isGivenUp = true →
        phase.isGivenUp = true) := by
  cases ends with
  | uncreated | unknown | nothing | read => exact ⟨rfl, rfl, fun _ given => by contradiction⟩
  | confirmed _ concluded =>
      refine ⟨?_, rfl, fun _ given => by contradiction⟩
      simp [Phase.isLent, Exchange.isOver, concluded]
  | failed _ fails =>
      refine ⟨?_, rfl, fun _ given => by contradiction⟩
      cases fails with
      | request concluded | unchanged concluded =>
          simp [Phase.isLent, Exchange.isOver, concluded]
      | replacement => rfl
  | discarded other =>
      refine ⟨rfl, ?_, fun _ given => ?_⟩
      · cases result with
        | shutDown => exact absurd rfl other
        | _ => rfl
      · cases result with
        | abandoned => rfl
        | _ => contradiction
  | @answered _ _ _ _ outcome concluded =>
      refine ⟨by simp [Phase.isLent, Exchange.isOver, concluded], ?_, fun _ given => ?_⟩
      · cases outcome <;> rfl
      · cases outcome with
        | none => simp [Phase.isGivenUp, Exchange.isGivenUp, concluded]
        | some outcome => contradiction
  | stopped concluded =>
      refine ⟨by simp [Phase.isLent, Exchange.isOver, concluded], rfl, fun _ _ => ?_⟩
      simp [Phase.isGivenUp, Exchange.isGivenUp, concluded]
  | abandoned loose =>
      refine ⟨?_, rfl, fun other => absurd rfl other⟩
      cases phase with
      | fetching _ _ | asking _ _ => contradiction
      | _ => rfl

theorem Orderly.unlent {job : Job} (orderly : service.Orderly)
    (working : service.jobs.entry? who = some job) :
    ∃ request phase, service.call? who = some ⟨request, phase⟩ ∧ phase.isLent = false := by
  obtain ⟨⟨request, phase⟩, asked⟩ := orderly.jobs who job working
  refine ⟨request, phase, asked, ?_⟩
  cases works : phase.works with
  | false => simp [orderly.idle asked works] at working
  | true =>
      cases phase with
      | fetching _ _ | asking _ _ => contradiction
      | _ => rfl

theorem Orderly.deals (orderly : before.Orderly) (moved : before.Move event after)
    (caller : event.caller? = some who) : Deals before event who after := by
  cases moved with
  | enter new =>
      obtain rfl := Option.some.inj caller
      exact .enter (call?_enter new) new rfl
  | create asked | queue asked | strike asked | drain asked | query asked | fetch asked
  | forget asked | release asked =>
      obtain rfl := Option.some.inj caller
      exact .plain asked (call?_setPhase_self asked) rfl rfl rfl rfl
  | @restart who number printer _ _ asked =>
      obtain rfl := Option.some.inj caller
      have unlocked : (before.unlock who number).call? who =
          some ⟨.refresh printer, .queued number⟩ := asked
      exact .plain asked (call?_setPhase_self unlocked) rfl rfl rfl rfl
  | advance asked advanced | ask asked advanced =>
      obtain rfl := Option.some.inj ((advances_caller advanced).symm.trans caller)
      obtain ⟨trades, keeps⟩ := advanced.trades
      refine .trade asked (call?_setPhase_self asked) trades.turns ?_ rfl keeps
      intro unlent
      exact trades.leaves (by simpa [Phase.isLent] using unlent)
  | answer asked received answered =>
      obtain rfl := Option.some.inj caller
      obtain ⟨trades, going⟩ := Exchange.trades_answered answered
      rw [(received_inv received).1] at trades ⊢
      refine .trade asked (call?_setPhase_self asked) trades.turns ?_ rfl ?_
      · intro unlent
        exact trades.leaves (by simpa [Phase.isLent] using unlent)
      · intro _ given
        simp [Phase.isGivenUp, going] at given
  | hear asked received answered =>
      obtain rfl := Option.some.inj caller
      obtain ⟨trades, going⟩ := Exchange.trades_answered answered
      rw [(receivedAny_inv received).1] at trades ⊢
      refine .trade asked (call?_setPhase_self asked) trades.turns ?_ rfl ?_
      · intro unlent
        exact trades.leaves (by simpa [Phase.isLent] using unlent)
      · intro _ given
        simp [Phase.isGivenUp, going] at given
  | take asked concluded =>
      obtain rfl := Option.some.inj caller
      exact .plain asked (call?_setPhase_self asked) rfl
        (by simp [Phase.isLent, Exchange.isOver, concluded]) rfl rfl
  | fail asked _ fails =>
      obtain rfl := Option.some.inj caller
      refine .plain asked (call?_setPhase_self asked) rfl ?_ rfl rfl
      cases fails with
      | request concluded | unchanged concluded =>
          simp [Phase.isLent, Exchange.isOver, concluded]
      | replacement => rfl
  | settle asked =>
      obtain rfl := Option.some.inj caller
      exact .plain asked (finish_call? (call?_setEntry.trans asked)) finish_pool rfl rfl rfl
  | @unlist _ number _ _ entry _ asked =>
      obtain rfl := Option.some.inj caller
      obtain ⟨listing, same⟩ := strikeEntry_eq before number entry
      rw [same]
      exact .plain asked (call?_setPhase_self asked) rfl rfl rfl rfl
  | shutGate asked =>
      obtain rfl := Option.some.inj caller
      exact .shutGate asked (call?_setPhase_self asked) rfl
  | @sealUp who request _ asked =>
      obtain rfl := Option.some.inj caller
      have sealed : Service.call? { before with pool := before.pool.sealUp } who =
          some ⟨request, .sealing⟩ := asked
      exact .sealUp asked (finish_call? sealed) finish_pool
  | finish asked ends =>
      obtain rfl := Option.some.inj (ends.caller.symm.trans caller)
      obtain ⟨unlent, unshut, keeps⟩ := ends.deals
      exact .apart asked (finish_call? asked) finish_pool unlent
        (fun shuts => by simp [unshut] at shuts) keeps
  | prepare working | place working =>
      obtain rfl := Option.some.inj caller
      obtain ⟨request, phase, asked, unlent⟩ := orderly.unlent working
      exact .apart asked asked rfl unlent (fun _ => rfl) fun _ given => given
  | clean working =>
      obtain rfl := Option.some.inj caller
      obtain ⟨request, phase, asked, unlent⟩ := orderly.unlent working
      unfold deliver
      split
      · exact .plain asked (call?_setPhase_self asked) rfl unlent rfl rfl
      · exact .apart asked asked rfl unlent (fun _ => rfl) fun _ given => given
  | @discard who entries _ working =>
      obtain rfl := Option.some.inj caller
      obtain ⟨request, phase, asked, unlent⟩ := orderly.unlent working
      have told : (before.discardStep who entries).call? who = _ := discardStep_call? entries
      have pool : (before.discardStep who entries).pool = before.pool := discardStep_pool
      unfold acknowledge at told
      split at told
      · rename_i result doing
        obtain rfl := Option.some.inj ((phase?_of_call? asked).symm.trans doing)
        refine .apart asked (told.trans (call?_setPhase_self asked)) pool unlent
          (fun shuts => by contradiction) ?_
        intro _ given
        cases result with
        | abandoned => rfl
        | _ => contradiction
      · exact .apart asked (told.trans asked) pool unlent (fun _ => rfl) fun _ given => given
  | reap | elapse | age | lose | removeDirectory => contradiction

theorem Orderly.turns (orderly : before.Orderly) (taken : before.step? event = some after) :
    before.pool.Turns event.caller? after.pool := by
  have moved := move_of_step taken
  cases caller : event.caller? with
  | none =>
      cases moved.aside caller with
      | pool turns => exact turns
      | lose | removeDirectory => exact .idle
  | some who =>
      cases orderly.deals moved caller with
      | enter _ _ pool | apart _ _ pool =>
          rw [pool]
          exact .idle
      | trade _ _ turns => exact turns
      | shutGate _ _ pool =>
          rw [pool]
          exact .step (show before.pool.step? .shutGate = _ from rfl) fun _ other => by contradiction
      | sealUp _ _ pool =>
          rw [pool]
          exact .step (show before.pool.step? .sealUp = _ from rfl) fun _ other => by contradiction

/-- A call is among the borrowers only while its exchange is under way.  A shutdown leaves
the pool shut, and sealed when it is over. -/
structure Lends (service : Service) : Prop where
  balanced : ∃ limits, Pool.Balanced limits 0 service.pool
  borrowers : ∀ who, service.pool.hasBorrower who = true →
    ∃ call, service.call? who = some call ∧ call.phase.isLent = true
  shut : ∀ who call, service.call? who = some call → call.phase.hasShut = true →
    service.pool.gateOpen = false
  sealed : ∀ who request, service.call? who = some ⟨request, .finished .shutDown⟩ →
    service.pool.isSealed = true

theorem start_lends {settings : Settings} (started : start settings = .ok service) :
    service.Lends := by
  obtain rfl := start_inv started
  refine ⟨⟨_, Pool.start_balanced _⟩, ?_, ?_, ?_⟩
  · intro who there
    contradiction
  · intro who call found
    contradiction
  · intro who request found
    contradiction

theorem Lends.borrowers_own (lends : before.Lends) (deals : Deals before event who after)
    (there : after.pool.hasBorrower who = true) :
    ∃ call, after.call? who = some call ∧ call.phase.isLent = true := by
  -- A borrower that was there before has an exchange under way.
  have lent (same : before.pool.hasBorrower who = true) {request : Request} {phase : Phase}
      (asked : before.call? who = some ⟨request, phase⟩) : phase.isLent = true := by
    obtain ⟨call, again, lent⟩ := lends.borrowers who same
    obtain rfl := Option.some.inj (asked.symm.trans again)
    exact lent
  cases deals with
  | enter _ new pool =>
      rw [pool] at there
      obtain ⟨call, found, -⟩ := lends.borrowers who there
      simp [new] at found
  | apart asked _ pool unlent =>
      rw [pool] at there
      simp [lent there asked] at unlent
  | @trade _ _ next _ found _ leaves =>
      refine ⟨_, found, ?_⟩
      cases ended : next.isLent with
      | true => rfl
      | false => simp [leaves ended] at there
  | shutGate asked _ pool =>
      rw [pool] at there
      have busy := lent there asked
      contradiction
  | sealUp asked _ pool =>
      rw [pool] at there
      have busy := lent there asked
      contradiction

theorem Lends.step (lends : before.Lends) (orderly : before.Orderly)
    (taken : before.step? event = some after) : after.Lends := by
  have moved := move_of_step taken
  have turns := orderly.turns taken
  have frame := turns.frame
  refine { balanced := ?_, borrowers := ?_, shut := ?_, sealed := ?_ }
  · obtain ⟨limits, balanced⟩ := lends.balanced
    exact ⟨limits, turns.balanced balanced⟩
  · intro who there
    by_cases caller : event.caller? = some who
    · exact lends.borrowers_own (orderly.deals moved caller) there
    · rw [frame.others who caller] at there
      rw [(orderly.stays taken caller).1]
      exact lends.borrowers who there
  · intro who call found shuts
    by_cases caller : event.caller? = some who
    · cases orderly.deals moved caller with
      | enter known =>
          obtain rfl := Option.some.inj (found.symm.trans known)
          contradiction
      | apart asked known _ _ same =>
          obtain rfl := Option.some.inj (found.symm.trans known)
          obtain rfl := same shuts
          exact frame.shut (lends.shut who _ asked shuts)
      | trade _ known _ _ unshut =>
          obtain rfl := Option.some.inj (found.symm.trans known)
          simp [unshut] at shuts
      | shutGate _ _ pool =>
          rw [pool]
          rfl
      | sealUp asked => exact frame.shut (lends.shut who _ asked rfl)
    · rw [(orderly.stays taken caller).1] at found
      exact frame.shut (lends.shut who call found shuts)
  · intro who request found
    by_cases caller : event.caller? = some who
    · cases orderly.deals moved caller with
      | enter known =>
          obtain ⟨-, other⟩ := Call.mk.inj (Option.some.inj (found.symm.trans known))
          contradiction
      | apart asked known _ _ same =>
          obtain ⟨-, rfl⟩ := Call.mk.inj (Option.some.inj (found.symm.trans known))
          obtain rfl := same rfl
          exact frame.sealed (lends.sealed who _ asked)
      | trade _ known _ _ unshut =>
          obtain ⟨-, rfl⟩ := Call.mk.inj (Option.some.inj (found.symm.trans known))
          contradiction
      | shutGate _ known =>
          obtain ⟨-, other⟩ := Call.mk.inj (Option.some.inj (found.symm.trans known))
          contradiction
      | sealUp _ _ pool =>
          rw [pool]
          rfl
    · rw [(orderly.stays taken caller).1] at found
      exact frame.sealed (lends.sealed who request found)

theorem Lends.absent (lends : service.Lends) (asked : service.call? who = some call)
    (unlent : call.phase.isLent = false) : service.pool.hasBorrower who = false := by
  cases there : service.pool.hasBorrower who with
  | false => rfl
  | true =>
      obtain ⟨same, again, lent⟩ := lends.borrowers who there
      obtain rfl := Option.some.inj (asked.symm.trans again)
      simp [unlent] at lent

/-- When nobody has an exchange under way, nobody borrows. -/
theorem Lends.nobody (lends : service.Lends)
    (ended : ∀ who call, service.call? who = some call → call.phase.isLent = false) :
    service.pool.borrowers = [] := by
  refine List.eq_nil_iff_forall_not_mem.mpr ?_
  rintro ⟨who, stage⟩ member
  obtain ⟨limits, balanced⟩ := lends.balanced
  have there : service.pool.hasBorrower who = true := by
    rw [Pool.hasBorrower, Pool.stage?, balanced.borrowers.entry_of_mem member]
    rfl
  obtain ⟨call, found, lent⟩ := lends.borrowers who there
  simp [ended who call found] at lent

/-- No call was given up. -/
def Steadfast (service : Service) : Prop :=
  ∀ who call, service.call? who = some call → call.phase.isGivenUp = false

theorem Steadfast.step (steadfast : before.Steadfast) (orderly : before.Orderly)
    (taken : before.step? event = some after) (kept : ∀ who, event ≠ .abandon who) :
    after.Steadfast := by
  have moved := move_of_step taken
  intro who call found
  by_cases caller : event.caller? = some who
  · refine Bool.eq_false_iff.mpr fun given => ?_
    cases orderly.deals moved caller with
    | enter known | shutGate _ known | sealUp _ known =>
        obtain rfl := Option.some.inj (found.symm.trans known)
        contradiction
    | apart asked known _ _ _ keeps | trade asked known _ _ _ keeps =>
        obtain rfl := Option.some.inj (found.symm.trans known)
        have early := steadfast who _ asked
        simp [keeps (kept who) given] at early
  · rw [(orderly.stays taken caller).1] at found
    exact steadfast who call found

end Service

end PrintConnector
