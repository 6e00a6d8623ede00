import PrintConnector.Proofs.Service.OrderlyMove

namespace PrintConnector.Service

open Cache (Disk Edition Entry)

variable {service before after : Service} {event : Event} {events front back : List Event}
  {who other number : Nat} {call : Call} {request : Request} {phase next : Phase}
  {result : Result} {error : Error}

theorem reply?_advances {α : Type} {exchange next : Exchange α} {pool last : Pool} {reply : α}
    (advanced : exchange.Advances pool who event last next)
    (known : exchange.reply? = some reply) : next.reply? = some reply := by
  obtain ⟨retried, position⟩ := exchange
  rcases Exchange.position_of_reply known with position | position <;> simp only at position <;>
    subst position
  · cases advanced with
    | go gone =>
        obtain ⟨released, _, same⟩ := Option.bind_eq_some_iff.mp gone
        split at same <;> obtain ⟨-, rfl⟩ := Prod.mk.inj (Option.some.inj same) <;> rfl
    | connected connected => contradiction
    | reconnected reconnected => contradiction
    | failed answered => contradiction
    | abandoned abandoned => contradiction
  · cases advanced <;> contradiction

theorem reply?_of_advances {α : Type} {exchange next : Exchange α} {pool last : Pool} {reply : α}
    (advanced : exchange.Advances pool who event last next) (known : next.reply? = some reply) :
    exchange.reply? = some reply := by
  cases advanced with
  | go gone => exact Exchange.reply?_go gone known
  | connected connected => exact Exchange.reply?_connected connected known
  | reconnected reconnected => exact Exchange.reply?_reconnected reconnected known
  | failed answered => simpa using Exchange.reply?_answered answered known
  | abandoned abandoned => simp [Exchange.reply?_abandon abandoned] at known

/-- A call may start over until it is at work on an entry.  From then on it keeps the
lock until it is past its work, and it ends only once. -/
inductive Phase.Next : Phase → Phase → Prop where
  | stay {phase : Phase} : Next phase phase
  | queue {number : Nat} : Next .starting (.queued number)
  | drain : Next .starting (.discarding .shutDown)
  | query {query : Query} {exchange : Exchange (Reply Nat)} :
      Next .starting (.asking query exchange)
  | fetch {number : Nat} {exchange : Exchange (PpdReply Nat)} :
      Next (.queued number) (.fetching number exchange)
  | restart {number : Nat} : Next (.queued number) .starting
  | forget {number : Nat} : Next (.queued number) (.discarding (.invalidated true))
  | advance {number : Nat} {exchange later : Exchange (PpdReply Nat)}
      (keeps : ∀ reply, exchange.reply? = some reply → later.reply? = some reply) :
      Next (.fetching number exchange) (.fetching number later)
  | take {number : Nat} {exchange : Exchange (PpdReply Nat)} {marker : Option String} :
      Next (.fetching number exchange) (.replacing number marker)
  | deliver {number : Nat} {marker : Option String} {outcome : Except Error Edition} :
      Next (.replacing number marker) (.replaced number marker outcome)
  | fail {entry : Entry} {number : Nat} {phase : Phase} {error : Error}
      (fails : Fails entry number phase error) : Next phase (.failed number error)
  | unlist {number : Nat} {error : Error} : Next (.failed number error) (.unlisted number error)
  | release {number : Nat} {error : Error} :
      Next (.unlisted number error) (.discarding (.refreshed (.error error)))
  | acknowledge {result : Result} : Next (.discarding result) (.discarded result)
  | shutGate : Next (.discarded .shutDown) .sealing
  | ask {query : Query} {exchange later : Exchange (Reply Nat)} :
      Next (.asking query exchange) (.asking query later)
  | finish {phase : Phase} {result : Result} (under : ∀ result, phase ≠ .finished result) :
      Next phase (.finished result)

theorem Ends.under {state : Service} (ends : Ends state who event request phase result)
    (last : Result) : phase ≠ .finished last := by
  rintro rfl
  cases ends with
  | failed _ fails => cases fails
  | abandoned loose => simp [Phase.isLoose] at loose

theorem finish_call? (asked : service.call? who = some call) :
    (service.finish who result).call? who = some { call with phase := .finished result } := by
  obtain ⟨middle, -, same, -, -, concluded⟩ := finish_frame service who result
  rw [same]
  exact concluded call asked

theorem call?_setEntry {change : Entry → Entry} :
    (service.setEntry number change).call? who = service.call? who :=
  rfl

theorem deliver_call? (outcome : Except Error Edition)
    (found : service.call? who = some ⟨request, phase⟩) :
    ∃ next, (service.deliver who outcome).call? who = some ⟨request, next⟩ ∧ phase.Next next := by
  have doing := phase?_of_call? found
  unfold deliver
  split
  · rename_i known
    obtain rfl := Option.some.inj (doing.symm.trans known)
    exact ⟨_, call?_setPhase_self found, .deliver⟩
  · exact ⟨phase, found, .stay⟩

theorem deliver_call?_replacing {marker : Option String} {outcome : Except Error Edition}
    (found : service.call? who = some ⟨request, .replacing number marker⟩) :
    (service.deliver who outcome).call? who = some ⟨request, .replaced number marker outcome⟩ := by
  rw [deliver_replacing outcome (phase?_of_call? found)]
  exact call?_setPhase_self found

theorem acknowledge_call? (found : service.call? who = some ⟨request, phase⟩) :
    ∃ next, (service.acknowledge who).call? who = some ⟨request, next⟩ ∧ phase.Next next := by
  have doing := phase?_of_call? found
  unfold acknowledge
  split
  · rename_i known
    obtain rfl := Option.some.inj (doing.symm.trans known)
    exact ⟨_, call?_setPhase_self found, .acknowledge⟩
  · exact ⟨phase, found, .stay⟩

theorem acknowledge_call?_discarding
    (found : service.call? who = some ⟨request, .discarding result⟩) :
    (service.acknowledge who).call? who = some ⟨request, .discarded result⟩ := by
  rw [acknowledge_discarding (phase?_of_call? found)]
  exact call?_setPhase_self found

theorem discardStep_call? (entries : List Nat) :
    (service.discardStep who entries).call? who = (service.acknowledge who).call? who := by
  obtain ⟨loosened, unlocked⟩ := unlockAll_eq service who entries
  have same : phase? ({ service with entries := loosened }.endJob who) who = service.phase? who :=
    rfl
  unfold discardStep acknowledge
  dsimp only
  rw [unlocked, same]
  split <;> rfl

theorem Phase.Next.finished (turned : (Phase.finished result).Next next) :
    next = .finished result := by
  cases turned with
  | stay => rfl
  | fail fails => cases fails
  | finish under => exact absurd rfl (under result)

theorem strikeEntry_call? {entry : Entry} :
    (service.strikeEntry number entry).call? who = service.call? who := by
  obtain ⟨listing, same⟩ := strikeEntry_eq service number entry
  rw [same]
  rfl

theorem next_of_move (moved : before.Move event after) (caller : event.caller? = some who)
    (found : before.call? who = some ⟨request, phase⟩) :
    ∃ next, after.call? who = some ⟨request, next⟩ ∧ phase.Next next := by
  have same {other : Call} (asked : before.call? who = some other) : other = ⟨request, phase⟩ :=
    Option.some.inj (asked.symm.trans found)
  cases moved with
  | enter new =>
      obtain rfl := Option.some.inj caller
      simp [new] at found
  | create asked | queue asked | strike asked =>
      obtain rfl := Option.some.inj caller
      obtain ⟨rfl, rfl⟩ := Call.mk.inj (same asked)
      exact ⟨_, call?_setPhase_self asked, .queue⟩
  | drain asked =>
      obtain rfl := Option.some.inj caller
      obtain ⟨rfl, rfl⟩ := Call.mk.inj (same asked)
      exact ⟨_, call?_setPhase_self asked, .drain⟩
  | query asked =>
      obtain rfl := Option.some.inj caller
      obtain ⟨rfl, rfl⟩ := Call.mk.inj (same asked)
      exact ⟨_, call?_setPhase_self asked, .query⟩
  | fetch asked =>
      obtain rfl := Option.some.inj caller
      obtain ⟨rfl, rfl⟩ := Call.mk.inj (same asked)
      exact ⟨_, call?_setPhase_self asked, .fetch⟩
  | @restart who number printer =>
      rename_i asked _ _ _
      obtain rfl := Option.some.inj caller
      obtain ⟨rfl, rfl⟩ := Call.mk.inj (same asked)
      have unlocked : (before.unlock who number).call? who =
          some ⟨.refresh printer, .queued number⟩ := asked
      exact ⟨_, call?_setPhase_self unlocked, .restart⟩
  | forget asked =>
      obtain rfl := Option.some.inj caller
      obtain ⟨rfl, rfl⟩ := Call.mk.inj (same asked)
      exact ⟨_, call?_setPhase_self asked, .forget⟩
  | advance asked advanced =>
      obtain rfl := Option.some.inj ((advances_caller advanced).symm.trans caller)
      obtain ⟨rfl, rfl⟩ := Call.mk.inj (same asked)
      exact ⟨_, call?_setPhase_self asked, .advance fun _ => reply?_advances advanced⟩
  | answer asked received answered =>
      obtain rfl := Option.some.inj caller
      obtain ⟨rfl, rfl⟩ := Call.mk.inj (same asked)
      rw [(received_inv received).1]
      refine ⟨_, call?_setPhase_self asked, .advance ?_⟩
      intro reply known
      have asking := Exchange.answered_position answered
      rcases Exchange.position_of_reply known with position | position <;> simp [asking] at position
  | take asked =>
      obtain rfl := Option.some.inj caller
      obtain ⟨rfl, rfl⟩ := Call.mk.inj (same asked)
      exact ⟨_, call?_setPhase_self asked, .take⟩
  | fail asked known fails =>
      obtain rfl := Option.some.inj caller
      obtain ⟨rfl, rfl⟩ := Call.mk.inj (same asked)
      exact ⟨_, call?_setPhase_self asked, .fail fails⟩
  | settle asked =>
      obtain rfl := Option.some.inj caller
      obtain ⟨rfl, rfl⟩ := Call.mk.inj (same asked)
      exact ⟨_, finish_call? (call?_setEntry.trans asked), .finish (by simp)⟩
  | unlist asked known =>
      obtain rfl := Option.some.inj caller
      obtain ⟨rfl, rfl⟩ := Call.mk.inj (same asked)
      exact ⟨_, call?_setPhase_self (strikeEntry_call?.trans asked), .unlist⟩
  | release asked =>
      obtain rfl := Option.some.inj caller
      obtain ⟨rfl, rfl⟩ := Call.mk.inj (same asked)
      exact ⟨_, call?_setPhase_self asked, .release⟩
  | shutGate asked =>
      obtain rfl := Option.some.inj caller
      obtain ⟨rfl, rfl⟩ := Call.mk.inj (same asked)
      exact ⟨_, call?_setPhase_self asked, .shutGate⟩
  | @sealUp who request fault asked =>
      obtain rfl := Option.some.inj caller
      obtain ⟨rfl, rfl⟩ := Call.mk.inj (same asked)
      have sealed : Service.call? { before with pool := before.pool.sealUp } who =
          some ⟨request, .sealing⟩ := asked
      exact ⟨_, finish_call? sealed, .finish (by simp)⟩
  | ask asked advanced =>
      obtain rfl := Option.some.inj ((advances_caller advanced).symm.trans caller)
      obtain ⟨rfl, rfl⟩ := Call.mk.inj (same asked)
      exact ⟨_, call?_setPhase_self asked, .ask⟩
  | hear asked received =>
      obtain rfl := Option.some.inj caller
      obtain ⟨rfl, rfl⟩ := Call.mk.inj (same asked)
      rw [(receivedAny_inv received).1]
      exact ⟨_, call?_setPhase_self asked, .ask⟩
  | finish asked ends =>
      obtain rfl := Option.some.inj (ends.caller.symm.trans caller)
      obtain ⟨rfl, rfl⟩ := Call.mk.inj (same asked)
      exact ⟨_, finish_call? asked, .finish ends.under⟩
  | prepare | place =>
      obtain rfl := Option.some.inj caller
      exact ⟨_, found, .stay⟩
  | clean =>
      obtain rfl := Option.some.inj caller
      exact deliver_call? _ found
  | @discard who entries =>
      obtain rfl := Option.some.inj caller
      rw [discardStep_call? entries]
      exact acknowledge_call? found
  | reap | elapse | age | lose | removeDirectory => contradiction

/-- The calls that an event is not about stay as they are. -/
theorem Orderly.stays (orderly : before.Orderly) (taken : before.step? event = some after)
    (different : event.caller? ≠ some who) :
    after.call? who = before.call? who ∧ after.jobs.entry? who = before.jobs.entry? who := by
  have moved := move_of_step taken
  cases caller : event.caller? with
  | some other =>
      have course := orderly.course moved caller
      have apart : who ≠ other := by
        rintro rfl
        exact different caller
      exact ⟨course.calls who apart, course.jobs who apart⟩
  | none =>
      cases moved.aside caller with
      | pool | lose | removeDirectory => exact ⟨rfl, rfl⟩

structure Agrees (entry later : Entry) : Prop where
  printer : later.printer = entry.printer
  file : later.file = entry.file
  marker : later.marker = entry.marker
  current : later.current = entry.current

/-- What is not for a call leaves the entry that the call has locked as it is. -/
theorem Orderly.kept {entry : Entry} (orderly : before.Orderly)
    (taken : before.step? event = some after) (different : event.caller? ≠ some who)
    (asked : before.call? who = some call) (handle : call.phase.handle? = some number)
    (known : before.entry? number = some entry) (held : entry.isHeldBy who = true) :
    ∃ later, after.entry? number = some later ∧ Agrees entry later ∧
      later.isHeldBy who = true := by
  have moved := move_of_step taken
  cases caller : event.caller? with
  | some mover =>
      have course := orderly.course moved caller
      have apart : who ≠ mover := by
        rintro rfl
        exact different caller
      rcases course.entries number entry known with ⟨later, present, becomes⟩ | dropped
      · obtain ⟨first, marker, current⟩ := orderly.locked course apart known held present
        exact ⟨later, present, ⟨becomes.printer, becomes.file, marker, current⟩, first⟩
      · exact absurd (.held ((course.calls who apart).trans asked) handle) dropped.loose
  | none =>
      cases moved.aside caller with
      | pool | lose | removeDirectory => exact ⟨entry, known, ⟨rfl, rfl, rfl, rfl⟩, held⟩

/-- Downloads are numbered as they come, and none comes again. -/
theorem Orderly.downloads_fade (orderly : before.Orderly)
    (taken : before.step? event = some after) :
    before.disk.nextDownload ≤ after.disk.nextDownload ∧
      ∀ download bytes, download < before.disk.nextDownload →
        after.disk.downloads.entry? download = some bytes →
          before.disk.downloads.entry? download = some bytes := by
  have moved := move_of_step taken
  cases caller : event.caller? with
  | some mover =>
      have course := orderly.course moved caller
      exact ⟨course.nextDownload, course.downloads⟩
  | none =>
      cases moved.aside caller with
      | pool | removeDirectory => exact ⟨Nat.le_refl _, fun _ _ _ found => found⟩
      | @lose lost =>
          have spared : before.disk.Spares False 0 (fun _ => False) _ :=
            Disk.spares_removeDownload 0 _ before.disk lost
          exact ⟨Nat.le_refl _, spared.downloads⟩

theorem Orderly.entered (orderly : before.Orderly) (taken : before.step? event = some after)
    (missing : before.call? who = none) (found : after.call? who = some call) :
    ∃ request, event = .call who request ∧ call = ⟨request, .starting⟩ := by
  by_cases caller : event.caller? = some who
  · have moved := move_of_step taken
    have idle : before.jobs.entry? who = none := by
      cases working : before.jobs.entry? who with
      | none => rfl
      | some job =>
          obtain ⟨call, asked⟩ := orderly.jobs who job working
          simp [missing] at asked
    cases moved with
    | enter =>
        obtain rfl := Option.some.inj caller
        exact ⟨_, rfl, Option.some.inj (found.symm.trans (call?_enter missing))⟩
    | advance asked advanced | ask asked advanced =>
        obtain rfl := Option.some.inj ((advances_caller advanced).symm.trans caller)
        simp [missing] at asked
    | finish asked ends =>
        obtain rfl := Option.some.inj (ends.caller.symm.trans caller)
        simp [missing] at asked
    | prepare working | place working | clean working | discard working =>
        obtain rfl := Option.some.inj caller
        simp [idle] at working
    | create asked | queue asked | strike asked | drain asked | query asked | fetch asked
    | restart asked | forget asked | answer asked | hear asked | take asked | fail asked
    | settle asked | unlist asked | release asked | shutGate asked | sealUp asked =>
        obtain rfl := Option.some.inj caller
        simp [missing] at asked
    | reap | elapse | age | lose | removeDirectory => contradiction
  · rw [(orderly.stays taken caller).1, missing] at found
    contradiction

theorem Orderly.next_phase (orderly : before.Orderly) (taken : before.step? event = some after)
    (found : before.call? who = some ⟨request, phase⟩) :
    ∃ next, after.call? who = some ⟨request, next⟩ ∧ phase.Next next := by
  by_cases caller : event.caller? = some who
  · exact next_of_move (move_of_step taken) caller found
  · exact ⟨phase, (orderly.stays taken caller).1.trans found, .stay⟩

theorem run?_cons : before.run? (event :: events) = some after ↔
    ∃ between, before.step? event = some between ∧ between.run? events = some after := by
  rw [run?, List.foldlM_cons, Option.bind_eq_bind, Option.bind_eq_some_iff]
  rfl

theorem run?_append_of {between : Service} (first : before.run? front = some between)
    (rest : between.run? back = some after) : before.run? (front ++ back) = some after := by
  rw [run?_append, first]
  exact rest

theorem run?_split (ran : before.run? (front ++ back) = some after) :
    ∃ between, before.run? front = some between ∧ between.run? back = some after := by
  rw [run?_append] at ran
  exact Option.bind_eq_some_iff.mp ran

/-- What every step of a run keeps holds at its end. -/
theorem Orderly.induct_along {P : Service → Prop} (orderly : before.Orderly)
    (ran : before.run? events = some after) (holds : P before)
    (step : ∀ event ∈ events, ∀ one two, one.Orderly → one.step? event = some two → P one → P two) :
    P after := by
  induction events generalizing before with
  | nil =>
      obtain rfl := Option.some.inj ran
      exact holds
  | cons event events ih =>
      obtain ⟨between, taken, rest⟩ := run?_cons.mp ran
      refine ih (orderly.step taken) rest ?_ fun other member => step other (.tail event member)
      exact step event (.head events) before between orderly taken holds

theorem Orderly.induct {P : Service → Prop} (orderly : before.Orderly)
    (ran : before.run? events = some after) (holds : P before)
    (step : ∀ event one two, one.Orderly → one.step? event = some two → P one → P two) :
    P after :=
  orderly.induct_along ran holds fun event _ => step event

/-- The same for what is said of the events up to then. -/
theorem Orderly.induct_told {P : List Event → Service → Prop} (orderly : before.Orderly)
    (ran : before.run? events = some after) (holds : P [] before)
    (step : ∀ front event one two, before.run? front = some one → one.Orderly →
      one.step? event = some two → P front one → P (front ++ [event]) two) : P events after := by
  have onward (back front : List Event) (between : Service)
      (reached : before.run? front = some between) (told : P front between)
      (rest : between.run? back = some after) : P (front ++ back) after := by
    induction back generalizing front between with
    | nil =>
        obtain rfl := Option.some.inj rest
        rwa [List.append_nil]
    | cons event back ih =>
        obtain ⟨next, taken, rest⟩ := run?_cons.mp rest
        rw [List.append_cons]
        refine ih (front ++ [event]) next ?_ ?_ rest
        · exact run?_append_of reached (run?_cons.mpr ⟨next, taken, rfl⟩)
        · exact step front event between next reached (orderly.run reached) taken told
  exact onward events [] before rfl holds ran

theorem Orderly.keeps_request (orderly : before.Orderly) (ran : before.run? events = some after)
    (found : before.call? who = some ⟨request, phase⟩) :
    ∃ later, after.call? who = some ⟨request, later⟩ := by
  refine orderly.induct (P := fun service => ∃ later, service.call? who = some ⟨request, later⟩) ran
    ⟨phase, found⟩ ?_
  rintro event one two order taken ⟨between, known⟩
  obtain ⟨later, now, -⟩ := order.next_phase taken known
  exact ⟨later, now⟩

/-- Phases of a call that is past its work on an entry. -/
def Phase.isPast : Phase → Bool
  | .discarding _ | .discarded _ | .sealing | .finished _ => true
  | _ => false

theorem Phase.Next.past (turned : phase.Next next) (past : phase.isPast = true) :
    next.isPast = true := by
  cases turned with
  | fail fails => cases fails <;> contradiction
  | stay => exact past
  | acknowledge | shutGate | finish => rfl
  | _ => contradiction

theorem Phase.Next.grip (turned : phase.Next next) (grip : phase.grip? = some number) :
    next.grip? = some number ∨ next.isPast = true := by
  cases turned with
  | fail fails =>
      cases fails <;> exact .inl grip
  | stay | advance | take | deliver | unlist => exact .inl grip
  | release | acknowledge | shutGate | finish => exact .inr rfl
  | _ => contradiction

def Grips (service : Service) (who number : Nat) : Prop :=
  ∃ request phase, service.call? who = some ⟨request, phase⟩ ∧ phase.grip? = some number

theorem Grips.refers (grips : service.Grips who number) : service.Refers number := by
  obtain ⟨request, phase, found, grip⟩ := grips
  exact .held found (handle?_of_grip grip)

theorem Orderly.held_of_grips {entry : Entry} (orderly : service.Orderly)
    (grips : service.Grips who number) (found : service.entry? number = some entry) :
    entry.isHeldBy who = true := by
  obtain ⟨request, phase, asked, grip⟩ := grips
  obtain ⟨printer, -, same, again, held, -⟩ := (orderly.calls who _ asked).grip number grip
  obtain rfl := Option.some.inj (found.symm.trans again)
  exact held

end PrintConnector.Service
