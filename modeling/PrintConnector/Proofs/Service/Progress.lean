import Mathlib.Logic.Relation
import PrintConnector.Proofs.Pool.Standing
import PrintConnector.Proofs.Service.Line
import PrintConnector.Proofs.Service.Restart
import PrintConnector.Service.Need

/-! The service never gets stuck.

A call waits for the lock of an entry, for a slot, for its job or for the server.
Whoever has a lock never waits for another one, and whoever holds a slot waits for
the server at most, so that every wait ends at a call that goes on by itself, at its
job, or at the server.
-/

namespace PrintConnector

open Service (Event)

/-- What the server may say to a query. -/
def Reply.Fits {δ : Type} : Reply δ → Query → Prop
  | .ppd _, .ppd .. | .printers _, .printers | .attributes _, .attributes _ => True
  | _, _ => False

theorem Exchange.Placed.advances {α : Type} {exchange next : Exchange α} {limits : Pool.Limits}
    {pool last : Pool} {event : Event} {who : Nat}
    (placed : exchange.Placed limits.maxAge pool who) (balanced : Pool.Balanced limits 0 pool)
    (setup : pool.limits = limits) (advanced : exchange.Advances pool who event last next) :
    next.Placed limits.maxAge last who := by
  have acted : ∃ event : Errand.Event α,
      event.act? ⟨pool, exchange, []⟩ who = some (last, next) := by
    cases advanced with
    | go gone => exact ⟨.go, gone⟩
    | connected connected => exact ⟨.connected _, connected⟩
    | reconnected reconnected => exact ⟨.reconnected _, reconnected⟩
    | failed answered => exact ⟨.answered _, answered⟩
    | abandoned abandoned => exact ⟨.abandon, abandoned⟩
  obtain ⟨_, acted⟩ := acted
  exact placed.act balanced setup acted

namespace Service

open Cache (Entry)

variable {service fresh before after : Service} {event : Event} {events : List Event}
  {who other number : Nat} {request : Request} {phase next : Phase} {call : Call}
  {settings : Settings} {limits : Pool.Limits}

/-- Where the exchange of a call stands fits its borrower in the pool. -/
def Phase.Placed (maxAge : Nat) (pool : Pool) (who : Nat) : Phase → Prop
  | .fetching _ exchange => exchange.Placed maxAge pool who
  | .asking _ exchange => exchange.Placed maxAge pool who
  | _ => True

structure Housed (limits : Pool.Limits) (service : Service) : Prop where
  balanced : Pool.Balanced limits 0 service.pool
  setup : service.pool.limits = limits
  placed : ∀ who call, service.call? who = some call →
    call.phase.Placed limits.maxAge service.pool who

theorem Lends.stage_none (lends : service.Lends) (asked : service.call? who = some call)
    (unlent : call.phase.isLent = false) : service.pool.stage? who = none := by
  simpa [Pool.hasBorrower] using lends.absent asked unlent

theorem Housed.placed_own (housed : before.Housed limits) (lends : before.Lends)
    (moved : before.Move event after) (caller : event.caller? = some who)
    (found : after.call? who = some ⟨request, next⟩) :
    next.Placed limits.maxAge after.pool who := by
  have only {asks : Request} {last : Phase} (now : after.call? who = some ⟨asks, last⟩) :
      next = last := (call?_inj found now).2
  -- An exchange is placed as its own step leaves it; no other phase has anything to place.
  cases moved with
  | fetch asked | query asked =>
      obtain rfl := Option.some.inj caller
      rw [only (call?_setPhase_self asked)]
      exact Exchange.placed_of_absent (lends.stage_none asked rfl)
  | advance asked advanced | ask asked advanced =>
      obtain rfl := Option.some.inj ((advances_caller advanced).symm.trans caller)
      rw [only (call?_setPhase_self asked)]
      exact (housed.placed _ _ asked).advances housed.balanced housed.setup advanced
  | answer asked received answered =>
      obtain rfl := Option.some.inj caller
      rw [(received_inv received).1] at answered only ⊢
      rw [only (call?_setPhase_self asked)]
      have acted : Errand.Event.act? (.answered _) ⟨before.pool, _, []⟩ _ = some _ := answered
      exact (housed.placed _ _ asked).act housed.balanced housed.setup acted
  | hear asked received answered =>
      obtain rfl := Option.some.inj caller
      rw [(receivedAny_inv received).1] at answered only ⊢
      rw [only (call?_setPhase_self asked)]
      have acted : Errand.Event.act? (.answered _) ⟨before.pool, _, []⟩ _ = some _ := answered
      exact (housed.placed _ _ asked).act housed.balanced housed.setup acted
  | enter new =>
      obtain rfl := Option.some.inj caller
      rw [only (call?_enter new)]
      trivial
  | @restart who number =>
      rename_i asked _ _ _
      obtain rfl := Option.some.inj caller
      have unlocked : (before.unlock who number).call? who = _ := asked
      rw [only (call?_setPhase_self unlocked)]
      trivial
  | settle asked =>
      obtain rfl := Option.some.inj caller
      rw [only (finish_call? (call?_setEntry.trans asked))]
      trivial
  | unlist asked =>
      obtain rfl := Option.some.inj caller
      rw [only (call?_setPhase_self (strikeEntry_call?.trans asked))]
      trivial
  | @sealUp who _ _ asked =>
      obtain rfl := Option.some.inj caller
      have sealed : Service.call? { before with pool := before.pool.sealUp } who = _ := asked
      rw [only (finish_call? sealed)]
      trivial
  | finish asked ends =>
      obtain rfl := Option.some.inj (ends.caller.symm.trans caller)
      rw [only (finish_call? asked)]
      trivial
  | create asked | queue asked | strike asked | drain asked | forget asked | take asked | fail asked
  | release asked | shutGate asked =>
      obtain rfl := Option.some.inj caller
      rw [only (call?_setPhase_self asked)]
      trivial
  | prepare working | place working =>
      obtain rfl := Option.some.inj caller
      exact housed.placed _ _ found
  | @clean who download _ outcome _ working =>
      obtain rfl := Option.some.inj caller
      let ended := { before with disk := before.disk.removeDownload download }.endJob who
      have pool : (ended.deliver who outcome).pool = before.pool := by
        unfold deliver
        split <;> rfl
      rw [pool]
      unfold deliver at found
      split at found
      · rename_i doing
        obtain ⟨call, asked, -⟩ := call?_of_phase? doing
        cases found.symm.trans (call?_setPhase_self asked)
        trivial
      · exact housed.placed _ _ found
  | @discard who entries _ working =>
      obtain rfl := Option.some.inj caller
      rw [discardStep_pool]
      rw [discardStep_call?] at found
      unfold acknowledge at found
      split at found
      · rename_i doing
        obtain ⟨call, asked, -⟩ := call?_of_phase? doing
        cases found.symm.trans (call?_setPhase_self asked)
        trivial
      · exact housed.placed _ _ found
  | reap | elapse | age | lose | removeDirectory => contradiction

theorem Phase.Placed.leftAlone {maxAge : Nat} {pool last : Pool}
    (placed : phase.Placed maxAge pool who) (alone : pool.LeavesAlone last who) :
    phase.Placed maxAge last who := by
  cases phase with
  | fetching _ _ | asking _ _ => exact Exchange.Placed.leftAlone placed alone
  | _ => trivial

theorem Housed.step (housed : before.Housed limits) (orderly : before.Orderly)
    (lends : before.Lends) (taken : before.step? event = some after) :
    after.Housed limits := by
  have turns := orderly.turns taken
  have distinct := housed.balanced.borrowers
  refine ⟨turns.balanced housed.balanced, (turns.limits distinct).trans housed.setup, ?_⟩
  intro who call found
  by_cases caller : event.caller? = some who
  · exact housed.placed_own lends (move_of_step taken) caller found
  · rw [(orderly.stays taken caller).1] at found
    exact (housed.placed who call found).leftAlone (turns.leavesAlone distinct caller)

/-- A call waits for something that another call has. -/
inductive WaitsOn (service : Service) (who other : Nat) : Prop where
  | lock {request : Request} {number : Nat} {entry : Entry} (waits : service.need who = .lock)
      (asked : service.call? who = some ⟨request, .queued number⟩)
      (known : service.entry? number = some entry) (held : entry.isHeldBy other = true)
  | slot {stage : Pool.Stage} (waits : service.need who = .slot)
      (found : service.pool.stage? other = some stage) (holds : stage.holdsSlot = true)

/-- A call goes on by itself or with its job, or as soon as the server says
something, whatever that is. -/
inductive Ready (service : Service) (who : Nat) : Prop where
  | goes (steps : ∀ fault, (service.step? (.go who fault)).isSome = true)
  | works (steps : ∀ fault, (service.step? (.work who fault)).isSome = true)
  | connects (waits : service.need who = .connection)
      (steps : ∀ result, (service.step? (.connected who result)).isSome = true)
  | reconnects (waits : service.need who = .reconnection)
      (steps : ∀ result, (service.step? (.reconnected who result)).isSome = true)
  | answers {query : Query} (waits : service.need who = .answer query)
      (steps : ∀ result, (∀ reply, result = .ok reply → reply.Fits query) →
        (service.step? (.answered who result)).isSome = true)

theorem Orderly.need_fetching {exchange : Exchange (PpdReply Nat)} (orderly : service.Orderly)
    (asked : service.call? who = some ⟨request, .fetching number exchange⟩) :
    ∃ entry, service.entry? number = some entry ∧ service.need who =
      needOf (exchange.need service.pool who) (.ppd entry.printer entry.marker) := by
  obtain ⟨entry, known, -⟩ := (orderly.calls who _ asked).handle number rfl
  exact ⟨entry, known, by simp [need, asked, known]⟩

/-- A call is ready if its exchange is, and can take every step that its exchange can. -/
theorem ready_of_outlook {α : Type} {exchange : Exchange α} {query : Query}
    (outlook : exchange.Outlook service.pool who)
    (needs : service.need who = needOf (exchange.need service.pool who) query)
    (free : service.need who ≠ .slot)
    (goes : (exchange.go? service.pool who).isSome = true ∨
        (∃ outcome, exchange.position = .finished outcome) →
      ∀ fault, (service.step? (.go who fault)).isSome = true)
    (connects : ∀ result, (exchange.connected? service.pool who result).isSome = true →
      (service.step? (.connected who result)).isSome = true)
    (reconnects : ∀ result, (exchange.reconnected? service.pool who result).isSome = true →
      (service.step? (.reconnected who result)).isSome = true)
    (answers : (∀ taken, (exchange.answered? service.pool who taken).isSome = true) →
      ∀ result, (∀ reply, result = .ok reply → reply.Fits query) →
        (service.step? (.answered who result)).isSome = true) : service.Ready who := by
  cases outlook with
  | goes gone => exact .goes (goes (.inl gone))
  | ended position => exact .goes (goes (.inr ⟨_, position⟩))
  | slot waits => simp [needs, waits, needOf] at free
  | connects waits steps =>
      exact .connects (by simp [needs, waits, needOf]) fun result => connects result (steps result)
  | reconnects waits steps =>
      exact .reconnects (by simp [needs, waits, needOf])
        fun result => reconnects result (steps result)
  | answers waits steps => exact .answers (by simp [needs, waits, needOf]) (answers steps)

theorem Housed.ready_fetching {exchange : Exchange (PpdReply Nat)}
    (housed : service.Housed limits) (orderly : service.Orderly)
    (asked : service.call? who = some ⟨request, .fetching number exchange⟩)
    (free : service.need who ≠ .slot) : service.Ready who := by
  have placed : exchange.Placed limits.maxAge service.pool who := housed.placed who _ asked
  obtain ⟨entry, known, needs⟩ := orderly.need_fetching asked
  apply ready_of_outlook placed.outlook needs free
  · intro going fault
    simp only [step?, go?, asked, Option.bind_eq_bind, Option.bind_some]
    split
    · simp [known]
    · rename_i unfinished
      rcases going with going | ⟨outcome, position⟩
      · simpa [Option.isSome_bind] using going
      · exact absurd position (unfinished outcome)
  · intro result connected
    simpa [step?, connected?, asked, Option.isSome_bind] using connected
  · intro result reconnected
    simpa [step?, reconnected?, asked, Option.isSome_bind] using reconnected
  · intro answered result fits
    cases result with
    | error error =>
        simpa [step?, answered?, asked, Option.isSome_bind] using answered (.error error)
    | ok reply =>
        cases reply with
        | ppd reply =>
            cases received : service.receive reply with
            | mk between taken =>
                have pool : between.pool = service.pool := by rw [(received_inv received).1]
                simpa [step?, answered?, asked, Option.isSome_bind, received, pool]
                  using answered (.ok taken)
        | printers _ | attributes _ => exact (fits _ rfl).elim

theorem Housed.ready_asking {query : Query} {exchange : Exchange (Reply Nat)}
    (housed : service.Housed limits)
    (asked : service.call? who = some ⟨request, .asking query exchange⟩)
    (free : service.need who ≠ .slot) : service.Ready who := by
  have placed : exchange.Placed limits.maxAge service.pool who := housed.placed who _ asked
  have needs : service.need who = needOf (exchange.need service.pool who) query := by
    simp [need, asked]
  apply ready_of_outlook placed.outlook needs free
  · intro going fault
    simp only [step?, go?, asked, Option.bind_eq_bind, Option.bind_some]
    split
    · simp
    · rename_i unfinished
      rcases going with going | ⟨outcome, position⟩
      · simpa [Option.isSome_bind] using going
      · exact absurd position (unfinished outcome)
  · intro result connected
    simpa [step?, connected?, asked, Option.isSome_bind] using connected
  · intro result reconnected
    simpa [step?, reconnected?, asked, Option.isSome_bind] using reconnected
  · intro answered result _
    cases result with
    | error error =>
        simpa [step?, answered?, asked, Option.isSome_bind] using answered (.error error)
    | ok reply =>
        cases received : service.receiveAny reply with
        | mk between taken =>
            have pool : between.pool = service.pool := by rw [(receivedAny_inv received).1]
            simpa [step?, answered?, asked, Option.isSome_bind, received, pool]
              using answered (.ok taken)

theorem ready_of_job {job : Job} (working : service.jobs.entry? who = some job) :
    service.Ready who := by
  refine .works fun fault => ?_
  cases job <;> simp [step?, work?, working]

/-- A call that waits for no lock and no slot is ready. -/
theorem Housed.ready (housed : service.Housed limits) (orderly : service.Orderly)
    (lined : service.Lined who) (asked : service.call? who = some ⟨request, phase⟩)
    (unfinished : phase.isFinished = false) (unlocked : service.need who ≠ .lock)
    (free : service.need who ≠ .slot) : service.Ready who := by
  have entries {number : Nat} (handle : phase.handle? = some number) :
      ∃ entry, service.entry? number = some entry := by
    obtain ⟨entry, known, -⟩ := (orderly.calls who _ asked).handle number handle
    exact ⟨entry, known⟩
  have working (busy : phase.awaitsJob = true) : service.Ready who := by
    obtain ⟨job, working⟩ := lined.works _ asked busy
    exact ready_of_job working
  cases phase with
  | starting => exact .goes fun fault => by simp [step?, go?, asked]
  | queued number =>
      obtain ⟨entry, known⟩ := entries rfl
      have held : entry.isHeldBy who = true := by
        cases held : entry.isHeldBy who with
        | true => rfl
        | false => simp [need, asked, known, held] at unlocked
      exact .goes fun fault => by simp [step?, go?, asked, known, held]
  | fetching number exchange => exact housed.ready_fetching orderly asked free
  | replacing number marker => exact working rfl
  | replaced number marker outcome =>
      obtain ⟨entry, known⟩ := entries rfl
      exact .goes fun fault => by simp [step?, go?, asked, known]
  | failed number error =>
      obtain ⟨entry, known⟩ := entries rfl
      exact .goes fun fault => by simp [step?, go?, asked, known]
  | unlisted number error => exact .goes fun fault => by simp [step?, go?, asked]
  | discarding result => exact working rfl
  | discarded result =>
      refine .goes fun fault => ?_
      cases result <;> simp [step?, go?, asked]
  | sealing => exact .goes fun fault => by simp [step?, go?, asked]
  | asking query exchange => exact housed.ready_asking asked free
  | finished result => contradiction

section Waits

theorem needOf_ne_lock {needs : Exchange.Need} {query : Query} : needOf needs query ≠ .lock := by
  cases needs <;> simp [needOf]

theorem needOf_eq_slot {needs : Exchange.Need} {query : Query} :
    needOf needs query = .slot ↔ needs = .slot := by
  cases needs <;> simp [needOf]

theorem call_of_lock (waits : service.need who = .lock) :
    ∃ request number, service.call? who = some ⟨request, .queued number⟩ ∧
      ∀ entry, service.entry? number = some entry → entry.isHeldBy who = false := by
  cases asked : service.call? who with
  | none => simp [need, asked] at waits
  | some call =>
      obtain ⟨request, phase⟩ := call
      cases phase with
      | queued number =>
          refine ⟨request, number, rfl, fun entry known => ?_⟩
          simpa [need, asked, known] using waits
      | fetching number =>
          cases known : service.entry? number <;>
            simp [need, asked, known, needOf_ne_lock] at waits
      | asking => simp [need, asked, needOf_ne_lock] at waits
      | _ => simp [need, asked] at waits

theorem stage_of_need (waits : service.need who = .slot) :
    service.pool.stage? who = some .waiting ∧ service.pool.gateOpen = true := by
  cases asked : service.call? who with
  | none => simp [need, asked] at waits
  | some call =>
      obtain ⟨request, phase⟩ := call
      cases phase with
      | queued number =>
          cases known : service.entry? number <;> simp [need, asked, known] at waits
          split at waits <;> contradiction
      | fetching number =>
          cases known : service.entry? number with
          | none => simp [need, asked, known] at waits
          | some entry =>
              simp only [need, asked, known, needOf_eq_slot] at waits
              exact Exchange.stage_of_slot waits
      | asking =>
          simp only [need, asked, needOf_eq_slot] at waits
          exact Exchange.stage_of_slot waits
      | _ => simp [need, asked] at waits

/-- Whoever holds a slot waits neither for a lock nor for a slot. -/
theorem Lends.holder {stage : Pool.Stage} (lends : service.Lends)
    (found : service.pool.stage? who = some stage) (holds : stage.holdsSlot = true) :
    (∃ call, service.call? who = some call ∧ call.phase.isFinished = false) ∧
      service.need who ≠ .lock ∧ service.need who ≠ .slot := by
  obtain ⟨call, asked, lent⟩ := lends.borrowers who (by simp [Pool.hasBorrower, found])
  refine ⟨⟨call, asked, ?_⟩, fun waits => ?_, fun waits => ?_⟩
  · cases phase : call.phase <;> simp_all [Phase.isLent, Phase.isFinished]
  · obtain ⟨request, number, again, -⟩ := call_of_lock waits
    obtain rfl := Option.some.inj (asked.symm.trans again)
    contradiction
  · obtain rfl := Option.some.inj (found.symm.trans (stage_of_need waits).1)
    contradiction

/-- Whoever has a lock waits for no other one. -/
theorem Lined.holder {entry : Entry} (lined : service.Lined who) (orderly : service.Orderly)
    (known : service.entry? number = some entry) (held : entry.isHeldBy who = true) :
    service.Claims who number ∧ service.need who ≠ .lock := by
  have first : entry.line.head? = some who := by simpa [Entry.isHeldBy] using held
  have claims := lined.stays number ⟨entry, known, List.mem_of_mem_head? first⟩
  refine ⟨claims, fun waits => ?_⟩
  obtain ⟨request, other, asked, apart⟩ := call_of_lock waits
  obtain rfl := Option.some.inj (orderly.claimed asked rfl claims)
  simp [apart entry known] at held

/-- How many waits there can be before a call goes on. -/
def distance (service : Service) (who : Nat) : Nat :=
  match service.need who with
  | .lock => 2
  | .slot => 1
  | _ => 0

theorem WaitsOn.closer (waits : service.WaitsOn who other) (orderly : service.Orderly)
    (lends : service.Lends) (lined : service.Lined other) :
    service.distance other < service.distance who := by
  cases waits with
  | lock waits _ known held =>
      have unlocked := (lined.holder orderly known held).2
      cases needs : service.need other <;> simp_all [distance]
  | slot waits found holds =>
      obtain ⟨-, unlocked, free⟩ := lends.holder found holds
      cases needs : service.need other <;> simp_all [distance]

end Waits

/-- Something is still to be done for a call. -/
inductive Busy (service : Service) (who : Nat) : Prop where
  | call {call : Call} (asked : service.call? who = some call)
      (unfinished : call.phase.isFinished = false)
  | job {job : Job} (working : service.jobs.entry? who = some job)

theorem Claims.busy (claims : service.Claims who number) : service.Busy who := by
  cases claims with
  | @call call asked handle =>
      refine .call asked ?_
      cases phase : call.phase with
      | finished => simp [phase, Phase.handle?] at handle
      | _ => rfl
  | job working => exact .job working

/-- What keeps the service from getting stuck. -/
structure Flowing (limits : Pool.Limits) (service : Service) : Prop where
  orderly : service.Orderly
  lends : service.Lends
  housed : service.Housed limits
  lined : ∀ who, service.Lined who

theorem Flowing.step (flowing : before.Flowing limits) (taken : before.step? event = some after) :
    after.Flowing limits where
  orderly := flowing.orderly.step taken
  lends := flowing.lends.step flowing.orderly taken
  housed := flowing.housed.step flowing.orderly flowing.lends taken
  lined who := (flowing.lined who).step flowing.orderly taken

theorem run_flowing (started : start settings = .ok fresh)
    (ran : fresh.run? events = some service) : service.Flowing (.ofSettings settings) := by
  have begun : fresh.Flowing (.ofSettings settings) := by
    refine ⟨start_orderly started, start_lends started, ?_, start_lined started⟩
    obtain rfl := start_inv started
    refine ⟨Pool.start_balanced _, rfl, fun who call asked => ?_⟩
    contradiction
  exact begun.orderly.induct ran begun fun _ _ _ _ taken flowing => flowing.step taken

theorem slots_of_start (started : start settings = .ok fresh) :
    0 < (Pool.Limits.ofSettings settings).slots := by
  refine Nat.pos_of_ne_zero fun none => ?_
  change settings.maxConnections = 0 at none
  simp [start, Settings.validate, none, bind, Except.bind] at started

/-- Whoever is busy goes on, or waits for somebody who is busy, too. -/
theorem Busy.onward (busy : service.Busy who) (flowing : service.Flowing limits)
    (slots : 0 < limits.slots) :
    service.Ready who ∨ ∃ other, service.WaitsOn who other ∧ service.Busy other := by
  cases busy with
  | job working => exact .inl (ready_of_job working)
  | @call call asked unfinished =>
      by_cases locked : service.need who = .lock
      · -- The first in line has the lock, and something to do with it still.
        obtain ⟨request, number, again, -⟩ := call_of_lock locked
        obtain ⟨entry, known, member⟩ := (flowing.lined who).waits _ number again rfl
        obtain ⟨first, rest, line⟩ := List.exists_cons_of_ne_nil (List.ne_nil_of_mem member)
        have held : entry.isHeldBy first = true := by simp [Entry.isHeldBy, line]
        have claims := ((flowing.lined first).holder flowing.orderly known held).1
        exact .inr ⟨first, .lock locked again known held, claims.busy⟩
      by_cases queued : service.need who = .slot
      · -- All slots are taken while somebody waits for one, and there is at least one.
        obtain ⟨waits, isOpen⟩ := stage_of_need queued
        obtain ⟨other, stage, found, holds⟩ := flowing.housed.balanced.holder slots waits isOpen
        obtain ⟨⟨call, lent, going⟩, -⟩ := flowing.lends.holder found holds
        exact .inr ⟨other, .slot queued found holds, .call lent going⟩
      · exact .inl (flowing.housed.ready flowing.orderly (flowing.lined who) asked unfinished locked
          queued)

/-- Every wait ends, since each step along it is one closer to going on. -/
theorem Busy.ends (busy : service.Busy who) (flowing : service.Flowing limits)
    (slots : 0 < limits.slots) :
    ∃ last, Relation.ReflTransGen service.WaitsOn who last ∧ service.Ready last := by
  generalize far : service.distance who = distance
  induction distance using Nat.strongRecOn generalizing who with
  | ind distance ih =>
      rcases busy.onward flowing slots with ready | ⟨other, waits, others⟩
      · exact ⟨who, .refl, ready⟩
      · have closer := waits.closer flowing.orderly flowing.lends (flowing.lined other)
        obtain ⟨last, path, ready⟩ := ih _ (far ▸ closer) others rfl
        exact ⟨last, .head waits path, ready⟩

/-- How calls get on with each other. -/
structure Live (fresh : Service) (events : List Event) (service : Service) : Prop where
  /-- A call that is not over goes on, or it waits for others and the last of them
  does. -/
  moves : ∀ who call, service.call? who = some call → call.phase.isFinished = false →
    ∃ last, Relation.ReflTransGen service.WaitsOn who last ∧ service.Ready last
  /-- Nobody waits for itself, be it by way of others. -/
  acyclic : ∀ who, ¬ Relation.TransGen service.WaitsOn who who
  /-- A call starts over at most once for each time that another call takes the entry
  of its printer off the list. -/
  restarts : ∀ who, fresh.count (startsOver who) events ≤ fresh.count (robs who) events

/-- However many sessions there may be at a time, and whichever calls come together
and are given up, no call gets stuck or starts over for nothing. -/
theorem run_live (started : start settings = .ok fresh) (ran : fresh.run? events = some service) :
    Live fresh events service := by
  have flowing := run_flowing started ran
  refine ⟨?_, ?_, ?_⟩
  · intro who call asked unfinished
    exact (Busy.call asked unfinished).ends flowing (slots_of_start started)
  · intro who cycle
    -- Whoever is waited for is nearer to going on, so no way leads back.
    have closer : ∀ other, Relation.TransGen service.WaitsOn who other →
        service.distance other < service.distance who := by
      intro other path
      induction path with
      | single waits => exact waits.closer flowing.orderly flowing.lends (flowing.lined _)
      | tail _ waits ih =>
          exact Nat.lt_trans (waits.closer flowing.orderly flowing.lends (flowing.lined _)) ih
    exact Nat.lt_irrefl _ (closer who cycle)
  · intro who
    have bound := (start_orderly started).restarts_le ran who
    have nobody : fresh.isRobbed who = false := by
      obtain rfl := start_inv started
      rfl
    simpa [nobody] using bound

def oneSession : Settings :=
  { Settings.standard "cache" with maxConnections := 1 }

/-- A refresh waits for a session again after a failure, behind a call that opens the
only one, and a second refresh and a call that forgets the printer wait for the first
refresh. -/
def crowded : List Event :=
  [.call 0 (.refresh "office"), .go 0 none, .go 0 none, .go 0 none, .go 0 none,
    .connected 0 (.ok ()), .go 0 none, .go 0 none, .call 1 (.ask .printers), .go 1 none, .go 1 none,
    .call 2 (.refresh "office"), .go 2 none, .call 3 (.invalidate "office"), .go 3 none,
    .answered 0 (.error (.transport "reset")), .go 0 none, .go 0 none, .go 0 none, .go 1 none,
    .go 1 none]

/-- Nothing can be opened any more, and the second refresh starts over. -/
def dispersed : List Event :=
  [.connected 1 (.error (.transport "refused")), .go 0 none, .go 0 none,
    .connected 0 (.error (.transport "refused")), .go 0 none, .go 0 none, .go 0 none, .go 2 none]

theorem crowded_live :
    ∃ fresh between service, start oneSession = .ok fresh ∧
      fresh.run? crowded = some between ∧ between.need 2 = .lock ∧ between.need 0 = .slot ∧
      between.need 1 = .connection ∧ Live fresh crowded between ∧
      fresh.run? (crowded ++ dispersed) = some service ∧
      fresh.count (startsOver 2) (crowded ++ dispersed) = 1 ∧
      Live fresh (crowded ++ dispersed) service := by
  have started : start oneSession = .ok { pool := .start (.ofSettings oneSession) } := rfl
  have ran : run? { pool := .start (.ofSettings oneSession) } crowded = some _ := rfl
  have ranOn : run? { pool := .start (.ofSettings oneSession) } (crowded ++ dispersed) =
    some _ := rfl
  exact ⟨_, _, _, started, ran, rfl, rfl, rfl, run_live started ran, ranOn, rfl,
    run_live started ranOn⟩

end Service

end PrintConnector
