import PrintConnector.Proofs.Service.Carry
import PrintConnector.Proofs.Service.Unwritten

namespace PrintConnector

open Cache (Disk Edition Entry Snapshot)

namespace Service

variable {service : Service} {who : Nat} {query : Query}

theorem need_answer (needs : service.need who = .answer query) :
    ∃ call, service.call? who = some call ∧ call.phase.Asks ∧
      ∀ number exchange, call.phase = .fetching number exchange →
        ∃ entry, service.entry? number = some entry ∧ query = .ppd entry.printer entry.marker := by
  have asked {α : Type} {exchange : Exchange α} {about : Query}
      (waits : needOf (exchange.need service.pool who) about = .answer query) :
      exchange.position = .asking ∧ query = about := by
    unfold Exchange.need at waits
    split at waits
    · split at waits <;> contradiction
    · contradiction
    · contradiction
    · rename_i asking
      exact ⟨asking, (Need.answer.inj waits).symm⟩
    · contradiction
    · contradiction
  unfold need at needs
  split at needs
  · contradiction
  · rename_i call found
    refine ⟨call, found, ?_⟩
    split at needs
    · split at needs
      · split at needs <;> contradiction
      · contradiction
    · rename_i number exchange doing
      split at needs
      · rename_i entry known
        obtain ⟨asking, same⟩ := asked needs
        rw [doing]
        refine ⟨asking, ?_⟩
        intro other again fetching
        obtain ⟨rfl, rfl⟩ := Phase.fetching.inj fetching
        exact ⟨entry, known, same⟩
      · contradiction
    · rename_i about exchange doing
      rw [doing]
      exact ⟨(asked needs).1, by simp⟩
    · contradiction
    · contradiction
    · contradiction
    · contradiction

theorem Confirms.not_asks {printer : String} {snapshot : Snapshot} {call : Call}
    (confirms : service.Confirms who printer snapshot)
    (asked : service.call? who = some call) : ¬ call.phase.Asks := by
  intro asks
  cases confirms with
  | waiting again replied =>
      obtain rfl := Option.some.inj (asked.symm.trans again)
      change _ = Exchange.Position.asking at asks
      have position := Exchange.position_of_reply replied
      simp [asks] at position
  | finished again =>
      obtain rfl := Option.some.inj (asked.symm.trans again)
      contradiction

end Service

namespace World

variable {origin before after world : World} {event : Event} {events front back : List Event}
  {who : Nat} {printer : String} {entry : Entry} {phase : Service.Phase} {service : Service}
  {happened : Service.Event} {publication : Publication} {telling : Telling}

/-- Documents of a printer that have the same marker are the same. -/
def Trusted (world : World) : Prop :=
  ∀ one ∈ world.published, ∀ other ∈ world.published, one.printer = other.printer →
    one.marker ≠ none → one.marker = other.marker → one.bytes = other.bytes

theorem Trusted.earlier (trusted : after.Trusted) (sub : before.published ⊆ after.published) :
    before.Trusted := by
  intro one member other present
  exact trusted one (sub member) other (sub present)

/-- An entry is empty, or it has a document with its marker. -/
inductive Documented (published : List Publication) (entry : Entry) : Prop where
  | empty (current : entry.current = none) (marker : entry.marker = none)
  | holds {publication : Publication} {edition : Edition} (member : publication ∈ published)
      (printer : publication.printer = entry.printer) (marker : publication.marker = entry.marker)
      (current : entry.current = some edition) (isOf : edition.IsOf publication.bytes)

theorem Documented.agrees {later : Entry} {published : List Publication}
    (documented : Documented published entry) (printer : later.printer = entry.printer)
    (marker : later.marker = entry.marker) (current : later.current = entry.current) :
    Documented published later := by
  cases documented with
  | empty none nothing => exact .empty (current.trans none) (marker.trans nothing)
  | holds member named marked holds isOf =>
      exact .holds member (named.trans printer.symm) (marked.trans marker.symm)
        (current.trans holds) isOf

theorem Documented.grow {published more : List Publication}
    (documented : Documented published entry) (sub : published ⊆ more) :
    Documented more entry := by
  cases documented with
  | empty current marker => exact .empty current marker
  | holds member printer marker current isOf =>
      exact .holds (sub member) printer marker current isOf

/-- What a refresh carries is of what the server told it. -/
structure Sound (world : World) : Prop where
  orderly : world.service.Orderly
  told : ∀ who telling, world.told.entry? who = some telling →
    telling.publication ∈ world.published ∧
      (telling.underway = true → world.service.Awaits who telling)
  entries : ∀ number entry, world.service.entry? number = some entry →
    Documented world.published entry
  calls : ∀ who printer phase, world.service.call? who = some ⟨.refresh printer, phase⟩ →
    phase.bears = true → ∃ telling, world.told.entry? who = some telling ∧
      telling.publication.printer = printer ∧
        world.service.Carries who telling.publication phase

theorem Sound.vouches (sound : world.Sound) (trusted : world.Trusted)
    (member : publication ∈ world.published) :
    world.service.Vouches publication.printer publication := by
  intro number entry edition known named marked present current
  cases sound.entries number entry known with
  | empty nothing => simp [current] at nothing
  | @holds held _ there printer marker again isOf =>
      obtain rfl := Option.some.inj (current.symm.trans again)
      have same := trusted held there publication member (printer.trans named)
        (marker ▸ present) (marker.trans marked)
      exact same ▸ isOf

section Steps

variable (sound : world.Sound) (taken : world.service.step? happened = some service)

include sound taken

theorem Sound.entries_step (known : service.entry? number = some entry) :
    Documented world.published entry := by
  have orderly := sound.orderly
  have moved := Service.move_of_step taken
  cases caller : happened.caller? with
  | some mover =>
      have course := orderly.course moved caller
      cases old : world.service.entry? number with
      | none =>
          have creates := course.fresh number entry old known
          have same := Option.some.inj (known.symm.trans creates.known)
          exact .empty (by rw [same]) (by rw [same])
      | some first =>
          rcases course.entries number first old with ⟨later, again, becomes⟩ | dropped
          · obtain rfl := Option.some.inj (known.symm.trans again)
            rcases becomes.settled with ⟨marker, current⟩ | ⟨edition, settles, current⟩
            · exact (sound.entries number first old).agrees becomes.printer marker current
            · obtain ⟨⟨request, phase⟩, asked, rfl⟩ := Service.call?_of_phase? settles
              obtain ⟨printer, asks, holder, there, -, named⟩ :=
                (orderly.calls mover _ asked).grip number rfl
              obtain rfl := Option.some.inj (old.symm.trans there)
              change request = _ at asks
              subst asks
              obtain ⟨telling, told, same, carries⟩ := sound.calls mover printer _ asked rfl
              cases carries with
              | replaced marked isOf =>
                  refine .holds (sound.told mover telling told).1 ?_ marked.symm current isOf
                  rw [same, becomes.printer, named]
          · simp [dropped.missing] at known
  | none =>
      cases moved.aside caller with
      | pool | lose | removeDirectory => exact sound.entries number entry known

theorem Sound.calls_step (trusted : world.Trusted)
    (found : service.call? who = some ⟨.refresh printer, phase⟩) (bears : phase.bears = true)
    (silent : ∀ reply, happened ≠ .answered who (.ok (.ppd reply))) :
    ¬ Loses who happened ∧ ∃ telling, world.told.entry? who = some telling ∧
      telling.publication.printer = printer ∧
        service.Carries who telling.publication phase := by
  have orderly := sound.orderly
  by_cases caller : happened.caller? = some who
  · cases asked : world.service.call? who with
    | none =>
        obtain ⟨request, -, same⟩ := orderly.entered taken asked found
        obtain ⟨-, rfl⟩ := Service.Call.mk.inj same
        contradiction
    | some call =>
        obtain ⟨request, earlier⟩ := call
        obtain ⟨next, now, -⟩ := orderly.next_phase taken asked
        obtain ⟨rfl, -⟩ := Service.Call.mk.inj (Option.some.inj (now.symm.trans found))
        obtain ⟨⟨bore, carries⟩, keeps⟩ := orderly.carries_own (Service.move_of_step taken) caller
          asked found bears silent
        obtain ⟨telling, told, rfl, carried⟩ := sound.calls who printer earlier asked bore
        have vouches := sound.vouches trusted (sound.told who telling told).1
        exact ⟨keeps who, telling, told, rfl, carries _ vouches carried⟩
  · have asked := (orderly.stays taken caller).1.symm.trans found
    obtain ⟨telling, told, named, carried⟩ := sound.calls who printer phase asked bears
    refine ⟨?_, telling, told, named, orderly.carries_other taken caller asked carried⟩
    intro loses
    cases happened with
    | answered other result => exact caller (congrArg some loses)
    | abandon other => exact caller (congrArg some loses)
    | _ => exact loses

end Steps

section Turns

variable (sound : before.Sound)

include sound

theorem Sound.answer {marker : Option String} {full : Bool}
    (needs : before.service.need who = .answer (.ppd printer marker))
    (new : before.told.entry? who = none) (current : before.current? printer = some publication) :
    Sound { before with
      told := before.told.add who { publication, reply := publication.reply marker full } } := by
  obtain ⟨member, named⟩ := mem_of_current current
  obtain ⟨call, asked, asks, sent⟩ := Service.need_answer needs
  refine { orderly := sound.orderly, told := ?_, entries := sound.entries, calls := ?_ }
  · intro other telling known
    rw [Roster.entry_add] at known
    by_cases same : other = who
    · subst same
      obtain rfl : _ = telling := by simpa [new] using known
      refine ⟨member, fun _ => ⟨⟨call, asked, asks⟩, ?_⟩⟩
      intro asking number exchange entry found there
      obtain rfl := Option.some.inj (asked.symm.trans found)
      obtain ⟨holder, known, about⟩ := sent number exchange rfl
      obtain rfl := Option.some.inj (there.symm.trans known)
      obtain ⟨rfl, rfl⟩ := Query.ppd.inj about
      obtain ⟨holder, known, about⟩ := (sound.orderly.calls other _ found).handle number rfl
      obtain rfl := Option.some.inj (there.symm.trans known)
      exact ⟨named.trans (about asking rfl), full, rfl⟩
    · rw [if_neg same, Option.or_none] at known
      exact sound.told other telling known
  · intro other asking phase found bears
    have different : other ≠ who := by
      rintro rfl
      obtain rfl := Option.some.inj (asked.symm.trans found)
      simp [asks.not_bears] at bears
    obtain ⟨telling, told, carried⟩ := sound.calls other asking phase found bears
    refine ⟨telling, ?_, carried⟩
    rw [Roster.entry_add, if_neg different, Option.or_none]
    exact told

theorem Sound.deliver (trusted : before.Trusted) (orderly : service.Orderly)
    (known : before.told.entry? who = some telling) (underway : telling.underway = true)
    (taken : before.service.step? (.answered who (.ok (.ppd telling.reply))) = some service) :
    Sound { before with
      service, told := before.told.update who { telling with underway := false } } := by
  have updated (other : Nat) :
      Roster.entry? (before.told.update who { telling with underway := false }) other =
        if other = who then some { telling with underway := false }
        else before.told.entry? other := by
    rw [Roster.entry_update, known]
    rfl
  refine { orderly, told := ?_, entries := fun _ _ => sound.entries_step taken, calls := ?_ }
  · intro other later there
    rw [updated] at there
    split at there
    · obtain rfl := Option.some.inj there
      exact ⟨(sound.told who telling known).1, fun still => by contradiction⟩
    · rename_i different
      obtain ⟨member, awaits⟩ := sound.told other later there
      refine ⟨member, fun still => sound.orderly.awaits_step taken ?_ (awaits still)⟩
      exact fun loses => different loses.symm
  · intro other asking phase found bears
    by_cases same : other = who
    · subst same
      obtain ⟨-, awaits⟩ := sound.told other telling known
      obtain ⟨named, carried⟩ := sound.orderly.carries_answer (awaits underway) taken found bears
      refine ⟨{ telling with underway := false }, ?_, named, carried⟩
      rw [updated, if_pos rfl]
    · obtain ⟨-, later, told, carried⟩ := sound.calls_step taken trusted found bears
        fun reply answers => same (Service.Event.answered.inj answers).1.symm
      refine ⟨later, ?_, carried⟩
      rw [updated, if_neg same]
      exact told

theorem Sound.lose (trusted : before.Trusted) (orderly : service.Orderly)
    (loses : Loses who happened)
    (silent : ∀ other reply, happened ≠ .answered other (.ok (.ppd reply)))
    (taken : before.service.step? happened = some service) :
    Sound { before with service, told := before.told.remove who } := by
  refine { orderly, told := ?_, entries := fun _ _ => sound.entries_step taken, calls := ?_ }
  · intro other telling known
    rw [Roster.entry_remove] at known
    split at known
    · contradiction
    · rename_i different
      obtain ⟨member, awaits⟩ := sound.told other telling known
      refine ⟨member, fun still => sound.orderly.awaits_step taken ?_ (awaits still)⟩
      exact fun others => different (others.unique loses)
  · intro other asking phase found bears
    obtain ⟨keeps, telling, told, carried⟩ :=
      sound.calls_step taken trusted found bears (silent other)
    refine ⟨telling, ?_, carried⟩
    rw [Roster.entry_remove, if_neg]
    · exact told
    · rintro rfl
      exact keeps loses

theorem Sound.pass (trusted : before.Trusted) (orderly : service.Orderly)
    (keeps : ∀ who, ¬ Loses who happened) (taken : before.service.step? happened = some service) :
    Sound { before with service } := by
  refine { orderly, told := ?_, entries := fun _ _ => sound.entries_step taken, calls := ?_ }
  · intro who telling known
    obtain ⟨member, awaits⟩ := sound.told who telling known
    exact ⟨member, fun still => sound.orderly.awaits_step taken (keeps who) (awaits still)⟩
  · intro who asking phase found bears
    refine (sound.calls_step taken trusted found bears ?_).2
    rintro reply rfl
    exact keeps who rfl

theorem Sound.turn (trusted : before.Trusted) (turn : Turn before event after) : after.Sound := by
  have orderly := turn.orderly sound.orderly
  cases turn with
  | publish =>
      refine { orderly, told := ?_, entries := ?_, calls := sound.calls }
      · intro who telling known
        obtain ⟨member, awaits⟩ := sound.told who telling known
        exact ⟨List.mem_cons_of_mem _ member, awaits⟩
      · intro number entry known
        exact (sound.entries number entry known).grow (List.subset_cons_self _ _)
  | answer needs new current => exact sound.answer needs new current
  | deliver known underway taken => exact sound.deliver trusted orderly known underway taken
  | lose loses silent taken => exact sound.lose trusted orderly loses silent taken
  | pass keeps taken => exact sound.pass trusted orderly keeps taken

end Turns

theorem Sound.run (sound : origin.Sound) (ran : origin.run? events = some world)
    (trusted : world.Trusted) : world.Sound := by
  refine induct (P := fun world => world.Trusted → world.Sound) sound.orderly ran (fun _ => sound)
    ?_ trusted
  intro event _ one two _ turn sound trusted
  have earlier := trusted.earlier turn.published
  exact (sound earlier).turn earlier turn

theorem start_sound {settings : Settings} (started : Service.start settings = .ok service) :
    Sound { service } := by
  have orderly := Service.start_orderly started
  obtain rfl := Service.start_inv started
  refine { orderly, told := ?_, entries := ?_, calls := ?_ }
  · intro who telling known
    contradiction
  · intro number entry known
    contradiction
  · intro who printer phase found
    contradiction

/-- The call that an event moves. -/
def Event.caller? : Event → Option Nat
  | .publish _ | .answer _ _ => none
  | .deliver who => some who
  | .service event => event.caller?

/-- An answer comes in that says that nothing has changed. -/
def Confirmed (origin : World) (events : List Event) (who : Nat) (before : World) : Prop :=
  ∃ front back telling, events = front ++ .deliver who :: back ∧ origin.run? front = some before ∧
    before.told.entry? who = some telling ∧ telling.reply = .unchanged

def OnlyRefreshes (events : List Event) : Prop :=
  ∀ who request, .service (.call who request) ∈ events → ∃ printer, request = .refresh printer

section Runs

theorem Turn.own (turn : Turn before event after) (caller : event.caller? = some who) :
    ∃ happened, before.service.step? happened = some after.service ∧
      happened.caller? = some who ∧
        ((∃ telling, before.told.entry? who = some telling ∧ telling.underway = true ∧
            happened = .answered who (.ok (.ppd telling.reply))) ∨
          ∀ reply, happened ≠ .answered who (.ok (.ppd reply))) := by
  cases turn with
  | publish | answer => contradiction
  | deliver known underway taken =>
      obtain rfl := Option.some.inj caller
      exact ⟨_, taken, rfl, .inl ⟨_, known, underway, rfl⟩⟩
  | lose loses silent taken => exact ⟨_, taken, caller, .inr (silent who)⟩
  | pass keeps taken =>
      refine ⟨_, taken, caller, .inr ?_⟩
      rintro reply rfl
      exact keeps who rfl

theorem Turn.refreshing (turn : Turn before event after) (orderly : before.service.Orderly)
    (only : ∀ who request, event = .service (.call who request) →
      ∃ printer, request = .refresh printer)
    (refreshing : before.service.Refreshing) : after.service.Refreshing := by
  intro who call found
  have keeps {happened : Service.Event} (taken : before.service.step? happened = some after.service)
      (entering : ∀ request, happened = .call who request →
        event = .service (.call who request)) : ∃ printer, call.request = .refresh printer := by
    cases asked : before.service.call? who with
    | none =>
        obtain ⟨request, rfl, rfl⟩ := orderly.entered taken asked found
        exact only who request (entering request rfl)
    | some earlier =>
        obtain ⟨request, phase⟩ := earlier
        obtain ⟨next, now, -⟩ := orderly.next_phase taken asked
        obtain rfl := Option.some.inj (now.symm.trans found)
        obtain ⟨printer, about⟩ := refreshing who _ asked
        exact ⟨printer, about⟩
  cases turn with
  | publish | answer => exact refreshing who call found
  | deliver _ _ taken => exact keeps taken (by simp)
  | lose _ _ taken | pass _ taken =>
      refine keeps taken ?_
      rintro request rfl
      rfl

variable (orderly : before.service.Orderly) (ran : before.run? events = some after)

include orderly ran

theorem run_request {request : Service.Request}
    (asked : before.service.call? who = some ⟨request, phase⟩) :
    ∃ later, after.service.call? who = some ⟨request, later⟩ := by
  refine induct_service (P := fun service => ∃ later, service.call? who = some ⟨request, later⟩)
    orderly ran ⟨phase, asked⟩ ?_
  rintro event one two orderly taken ⟨between, known⟩
  obtain ⟨later, now, -⟩ := orderly.next_phase taken known
  exact ⟨later, now⟩

/-- A call that is not answered in the end has not been answered before. -/
theorem run_unheard {call earlier : Service.Call} (found : after.service.call? who = some call)
    (unheard : call.phase.isAnswered = false)
    (asked : before.service.call? who = some earlier) : earlier.phase.isAnswered = false := by
  cases heard : earlier.phase.isAnswered with
  | false => rfl
  | true =>
      have late : ∃ call, after.service.call? who = some call ∧ call.phase.isAnswered = true := by
        refine induct_service (P := fun service => ∃ call, service.call? who = some call ∧
          call.phase.isAnswered = true) orderly ran ⟨earlier, asked, heard⟩ ?_
        rintro event one two orderly taken ⟨⟨request, phase⟩, asked, heard⟩
        obtain ⟨next, now, turned⟩ := orderly.next_phase taken asked
        exact ⟨_, now, turned.answered heard⟩
      obtain ⟨last, again, heard⟩ := late
      obtain rfl := Option.some.inj (found.symm.trans again)
      simp [unheard] at heard

theorem run_refreshing (only : OnlyRefreshes events) (refreshing : before.service.Refreshing) :
    after.service.Refreshing := by
  refine induct (P := fun world => world.service.Refreshing) orderly ran refreshing ?_
  intro event member one two orderly turn refreshing
  refine turn.refreshing orderly ?_ refreshing
  rintro who request rfl
  exact only who request member

theorem run_founds (only : OnlyRefreshes events) (refreshing : before.service.Refreshing)
    (founds : before.service.Founds who) : after.service.Founds who := by
  have kept : after.service.Refreshing ∧ after.service.Founds who := by
    refine induct (P := fun world => world.service.Refreshing ∧ world.service.Founds who) orderly
      ran ⟨refreshing, founds⟩ ?_
    rintro event member one two orderly turn ⟨refreshing, founds⟩
    refine ⟨turn.refreshing orderly ?_ refreshing, ?_⟩
    · rintro who request rfl
      exact only who request member
    · rcases turn.service with same | ⟨happened, taken⟩
      · rw [same]
        exact founds
      · exact founds.step orderly refreshing taken
  exact kept.2

theorem run_confirms {snapshot : Snapshot}
    (confirms : before.service.Confirms who printer snapshot) :
    after.service.Confirms who printer snapshot := by
  refine induct_service (P := fun service => service.Confirms who printer snapshot) orderly ran
    confirms ?_
  intro event one two orderly taken confirms
  exact confirms.step orderly taken

end Runs

section Unchanged

variable (sound : before.Sound) (told : before.told.entry? who = some telling)
  (underway : telling.underway = true) (unchanged : telling.reply = .unchanged)
  (asked : before.service.call? who = some ⟨.refresh printer, phase⟩)

include sound told underway unchanged asked

/-- The server says that nothing has changed only about an entry that holds
something. -/
theorem Sound.holding : ∃ number exchange entry snapshot, phase = .fetching number exchange ∧
    exchange.position = .asking ∧ before.service.entry? number = some entry ∧
      entry.snapshot? = some snapshot := by
  obtain ⟨-, awaits⟩ := sound.told who telling told
  obtain ⟨⟨call, again, asks⟩, replied⟩ := awaits underway
  obtain rfl := Option.some.inj (asked.symm.trans again)
  have fits := sound.orderly.calls who _ asked
  obtain ⟨number, exchange, rfl, asking⟩ := fits.suits.fetching asks
  obtain ⟨_, -, entry, known, -⟩ := fits.grip number rfl
  obtain ⟨-, full, replied⟩ := replied printer number exchange entry asked known
  cases sound.entries number entry known with
  | empty _ unmarked => simp [unchanged, Publication.reply, unmarked] at replied
  | @holds _ edition _ _ _ current =>
      refine ⟨number, exchange, entry, ⟨entry.file, edition⟩, rfl, asking, known, ?_⟩
      rw [Entry.snapshot?, current]
      rfl

theorem Sound.unheard : phase.isAnswered = false := by
  obtain ⟨number, exchange, entry, snapshot, rfl, asking, -⟩ :=
    sound.holding told underway unchanged asked
  simp [Service.Phase.isAnswered, Exchange.reply?, asking]

/-- A refresh that is told that nothing has changed has found its entry there. -/
theorem Sound.not_founds : ¬ before.service.Founds who := by
  obtain ⟨number, exchange, entry, snapshot, rfl, -, known, holds⟩ :=
    sound.holding told underway unchanged asked
  rintro (⟨again, handle, there, -, empty, -⟩ | ⟨again, answered⟩)
  · obtain ⟨-, rfl⟩ := Service.Call.mk.inj (Option.some.inj (asked.symm.trans again))
    obtain rfl := Option.some.inj handle
    obtain rfl := Option.some.inj (known.symm.trans there)
    simp [Entry.snapshot?, empty] at holds
  · obtain rfl := Option.some.inj (asked.symm.trans again)
    have unheard := sound.unheard told underway unchanged asked
    simp [unheard] at answered

/-- A refresh that hears that nothing has changed is about to give out what its entry
holds. -/
theorem Sound.heard (taken : before.service.step? (.answered who (.ok (.ppd telling.reply))) =
      some service) :
    ∃ number exchange entry snapshot, phase = .fetching number exchange ∧
      before.service.entry? number = some entry ∧ entry.snapshot? = some snapshot ∧
        service.Confirms who printer snapshot := by
  obtain ⟨number, exchange, entry, snapshot, rfl, -, known, holds⟩ :=
    sound.holding told underway unchanged asked
  refine ⟨number, exchange, entry, snapshot, rfl, known, holds, ?_⟩
  rw [unchanged] at taken
  have moved := Service.move_of_step taken
  cases moved with
  | answer found received answered =>
      obtain ⟨rfl, rfl⟩ := Prod.mk.inj received
      obtain ⟨rfl, fetching⟩ := Service.Call.mk.inj (Option.some.inj (asked.symm.trans found))
      obtain ⟨rfl, rfl⟩ := Service.Phase.fetching.inj fetching
      exact .waiting (Service.call?_setPhase_self asked) (Exchange.reply?_of_answered answered)
        known holds
  | hear found =>
      obtain ⟨-, fetching⟩ := Service.Call.mk.inj (Option.some.inj (asked.symm.trans found))
      contradiction
  | advance _ advanced | ask _ advanced => cases advanced
  | finish _ ends => cases ends

end Unchanged

/-- What a refresh gives out, what it asks for, and what it writes. -/
structure Fresh (origin : World) (events : List Event) (world : World) : Prop where
  /-- A refresh gives out the hash and the translation of what the server had for the
  printer when it answered. -/
  current : ∀ who printer snapshot,
    world.service.call? who = some ⟨.refresh printer, .finished (.refreshed (.ok snapshot))⟩ →
      ∃ front full back before publication, events = front ++ .answer who full :: back ∧
        (∀ again, .answer who again ∉ back) ∧ origin.run? front = some before ∧
        before.current? printer = some publication ∧ snapshot.edition.IsOf publication.bytes
  /-- The marker that a refresh sends is the one of what its entry holds. -/
  marked : ∀ who number exchange query,
    world.service.phase? who = some (.fetching number exchange) →
      world.service.need who = .answer query →
        ∃ entry, world.service.entry? number = some entry ∧
          query = .ppd entry.printer entry.marker ∧ Documented world.published entry
  /-- A refresh that hears that nothing has changed gives out what was held. -/
  unchanged : ∀ who before printer result, Confirmed origin events who before →
    world.service.call? who = some ⟨.refresh printer, .finished result⟩ →
      ∃ number exchange entry snapshot,
        before.service.call? who = some ⟨.refresh printer, .fetching number exchange⟩ ∧
        before.service.entry? number = some entry ∧ entry.snapshot? = some snapshot ∧
        result = .refreshed (.ok snapshot)
  /-- It writes nothing from the time on when it has the lock, and nothing at all if
  there are only refreshes. -/
  unwritten : ∀ who confirmed printer phase, Confirmed origin events who confirmed →
    confirmed.service.call? who = some ⟨.refresh printer, phase⟩ →
      ∀ front event back before after, events = front ++ event :: back →
        origin.run? front = some before → before.step? event = some after →
          event.caller? = some who →
            (OnlyRefreshes events ∨ ∃ number, before.service.Grips who number) →
              before.service.Unwritten after.service

section Confirming

variable {confirmed : World} (sound : confirmed.Sound)
  (told : confirmed.told.entry? who = some telling) (underway : telling.underway = true)
  (unchanged : telling.reply = .unchanged)
  (asked : confirmed.service.call? who = some ⟨.refresh printer, phase⟩)

include sound told underway unchanged asked

theorem Sound.unwritten_before (first : before.service.Orderly)
    (step : before.step? event = some after) (caller : event.caller? = some who)
    (ran : after.run? back = some confirmed)
    (refreshing : (∃ number, before.service.Grips who number) ∨
      OnlyRefreshes back ∧ after.service.Refreshing) :
    before.service.Unwritten after.service := by
  have unheard := sound.unheard told underway unchanged asked
  have turn := turn_of_step step
  have orderly := turn.orderly first
  obtain ⟨happened, taken, mine, -⟩ := turn.own caller
  refine first.unwritten_early taken mine ?_ ?_ ?_
  · intro call there
    exact run_unheard first (run?_cons.mpr ⟨after, step, ran⟩) asked unheard there
  · intro call there
    exact run_unheard orderly ran asked unheard there
  · intro number printer creates
    rcases refreshing with ⟨held, request, phase, there, grip⟩ | ⟨only, refreshing⟩
    · obtain ⟨-, rfl⟩ := Service.Call.mk.inj (Option.some.inj (there.symm.trans creates.asked))
      contradiction
    · exact sound.not_founds told underway unchanged asked
        (run_founds orderly ran only refreshing creates.founds)

theorem Sound.unwritten_heard (step : confirmed.step? (.deliver who) = some after) :
    confirmed.service.Unwritten after.service ∧
      ∃ snapshot, after.service.Confirms who printer snapshot := by
  have first := sound.orderly
  have turn := turn_of_step step
  have orderly := turn.orderly first
  cases turn with
  | deliver again _ taken =>
      obtain rfl := Option.some.inj (told.symm.trans again)
      obtain ⟨number, exchange, entry, snapshot, rfl, -, -, confirms⟩ :=
        sound.heard told underway unchanged asked taken
      refine ⟨?_, snapshot, confirms⟩
      refine first.unwritten taken rfl (first.idle asked rfl) (confirms.idle orderly) ?_ ?_ ?_
      · intro number printer creates
        have starting := creates.asked
        simp [asked] at starting
      · intro bytes marker document
        simp [unchanged] at document
      · intro number marker edition settles
        obtain ⟨call, there, doing⟩ := Service.call?_of_phase? settles
        obtain rfl := Option.some.inj (asked.symm.trans there)
        contradiction

end Confirming

theorem Sound.unwritten_after {snapshot : Snapshot} (sound : before.Sound)
    (confirms : before.service.Confirms who printer snapshot) (turn : Turn before event after)
    (caller : event.caller? = some who) : before.service.Unwritten after.service := by
  obtain ⟨happened, taken, mine, ⟨telling, told, underway, -⟩ | silent⟩ := turn.own caller
  · -- The answer is in, so nothing is on its way to the call.
    obtain ⟨-, awaits⟩ := sound.told who telling told
    obtain ⟨⟨call, asked, asks⟩, -⟩ := awaits underway
    exact absurd asks (confirms.not_asks asked)
  · exact confirms.unwritten sound.orderly taken mine fun bytes marker => silent _

theorem Confirmed.inv {confirmed : World} (confirms : Confirmed origin events who confirmed)
    (ran : origin.run? events = some world) :
    ∃ front back telling heard, events = front ++ .deliver who :: back ∧
      origin.run? front = some confirmed ∧ confirmed.told.entry? who = some telling ∧
      telling.underway = true ∧ telling.reply = .unchanged ∧
      confirmed.step? (.deliver who) = some heard ∧ heard.run? back = some world := by
  obtain ⟨front, back, telling, rfl, reached, told, unchanged⟩ := confirms
  obtain ⟨_, again, rest⟩ := run?_append.mp ran
  obtain rfl := Option.some.inj (reached.symm.trans again)
  obtain ⟨heard, delivered, last⟩ := run?_cons.mp rest
  have underway : telling.underway = true := by
    have turn := turn_of_step delivered
    cases turn with
    | deliver found underway =>
        obtain rfl := Option.some.inj (told.symm.trans found)
        exact underway
  exact ⟨front, back, telling, heard, rfl, reached, told, underway, unchanged, delivered, last⟩

section Runs

variable {fresh : Service} {settings : Settings} (started : Service.start settings = .ok fresh)
  (trusted : world.Trusted)

include started trusted

theorem sound_between (reached : run? { service := fresh } front = some before)
    (rest : before.run? back = some world) : before.Sound := by
  have sound := start_sound started
  have orderly := run_orderly sound.orderly reached
  exact sound.run reached (trusted.earlier (run_published orderly rest))

theorem run_unwritten (ran : run? { service := fresh } events = some world) {confirmed : World}
    (confirms : Confirmed { service := fresh } events who confirmed)
    (asked : confirmed.service.call? who = some ⟨.refresh printer, phase⟩)
    (split : events = front ++ event :: back)
    (reached : run? { service := fresh } front = some before)
    (step : before.step? event = some after) (caller : event.caller? = some who)
    (refreshing : OnlyRefreshes events ∨ ∃ number, before.service.Grips who number) :
    before.service.Unwritten after.service := by
  have origin := start_sound started
  obtain ⟨early, late, telling, heard, same, confirmedAt, told, underway, unchanged, delivered,
    last⟩ := confirms.inv ran
  have sound := sound_between started trusted confirmedAt (run?_cons.mpr ⟨heard, delivered, last⟩)
  -- The move comes before the answer, is the answer, or comes after it.
  rcases List.append_eq_append_iff.mp (split.symm.trans same) with
    ⟨middle, rfl, tail⟩ | ⟨middle, rfl, tail⟩
  · cases middle with
    | nil =>
        obtain ⟨rfl, rfl⟩ := List.cons.inj tail
        rw [List.append_nil, reached] at confirmedAt
        obtain rfl := Option.some.inj confirmedAt
        exact (sound.unwritten_heard told underway unchanged asked step).1
    | cons first middle =>
        obtain ⟨rfl, rfl⟩ := List.cons.inj tail
        obtain ⟨_, again, rest⟩ := run?_append.mp confirmedAt
        obtain rfl := Option.some.inj (reached.symm.trans again)
        obtain ⟨_, next, rest⟩ := run?_cons.mp rest
        obtain rfl := Option.some.inj (step.symm.trans next)
        have orderly := run_orderly origin.orderly reached
        refine sound.unwritten_before told underway unchanged asked orderly step caller rest ?_
        rcases refreshing with only | held
        · refine .inr ⟨?_, ?_⟩
          · intro other request member
            exact only other request (by simp [same, member])
          · refine run_refreshing origin.orderly (run?_snoc.mpr ⟨before, reached, step⟩) ?_ ?_
            · intro other request member
              refine only other request ?_
              rw [split, List.append_cons]
              exact List.mem_append_left _ member
            · obtain rfl := Service.start_inv started
              intro other call found
              contradiction
        · exact .inl held
  · cases middle with
    | nil =>
        obtain ⟨rfl, rfl⟩ := List.cons.inj tail
        rw [List.append_nil, confirmedAt] at reached
        obtain rfl := Option.some.inj reached
        exact (sound.unwritten_heard told underway unchanged asked step).1
    | cons first middle =>
        obtain ⟨rfl, rfl⟩ := List.cons.inj tail
        obtain ⟨_, again, rest⟩ := run?_append.mp reached
        obtain rfl := Option.some.inj (confirmedAt.symm.trans again)
        obtain ⟨_, next, rest⟩ := run?_cons.mp rest
        obtain rfl := Option.some.inj (delivered.symm.trans next)
        obtain ⟨-, snapshot, confirms⟩ :=
          sound.unwritten_heard told underway unchanged asked delivered
        have orderly := (turn_of_step delivered).orderly sound.orderly
        obtain ⟨_, again, toEnd⟩ := run?_append.mp last
        obtain rfl := Option.some.inj (rest.symm.trans again)
        have soundHere := sound_between started trusted reached toEnd
        exact soundHere.unwritten_after (run_confirms orderly rest confirms) (turn_of_step step)
          caller

/-- Whatever is published meanwhile, whatever fails and however the calls take turns,
refreshes give out what the server had. -/
theorem run_fresh (ran : run? { service := fresh } events = some world) :
    Fresh { service := fresh } events world := by
  have sound := (start_sound started).run ran trusted
  refine { current := ?_, marked := ?_, unchanged := ?_, unwritten := ?_ }
  · intro who printer snapshot found
    obtain ⟨telling, told, rfl, carries⟩ := sound.calls who printer _ found rfl
    obtain ⟨front, full, back, before, split, last, reached, current⟩ := told_split ran rfl told
    cases carries with
    | refreshed isOf =>
        exact ⟨front, full, back, before, telling.publication, split, last, reached, current, isOf⟩
  · intro who number exchange query doing needs
    obtain ⟨call, asked, -, sent⟩ := Service.need_answer needs
    obtain ⟨_, again, fetching⟩ := Service.call?_of_phase? doing
    obtain rfl := Option.some.inj (asked.symm.trans again)
    obtain ⟨entry, known, about⟩ := sent number exchange fetching
    exact ⟨entry, known, about, sound.entries number entry known⟩
  · intro who confirmed printer result confirms found
    obtain ⟨front, back, telling, heard, rfl, reached, told, underway, unchanged, delivered,
      last⟩ := confirms.inv ran
    have before := sound_between started trusted reached
      (run?_cons.mpr ⟨heard, delivered, last⟩)
    obtain ⟨-, awaits⟩ := before.told who telling told
    obtain ⟨⟨⟨request, phase⟩, asked, -⟩, -⟩ := awaits underway
    have toEnd := run?_cons.mpr ⟨heard, delivered, last⟩
    obtain ⟨later, again⟩ := run_request before.orderly toEnd asked
    obtain ⟨rfl, rfl⟩ := Service.Call.mk.inj (Option.some.inj (found.symm.trans again))
    have turn := turn_of_step delivered
    have orderly := turn.orderly before.orderly
    cases turn with
    | deliver again _ taken =>
        obtain rfl := Option.some.inj (told.symm.trans again)
        obtain ⟨number, exchange, entry, snapshot, rfl, known, holds, confirming⟩ :=
          before.heard told underway unchanged asked taken
        refine ⟨number, exchange, entry, snapshot, asked, known, holds, ?_⟩
        cases run_confirms orderly last confirming with
        | waiting again => simp [found] at again
        | finished again =>
            obtain ⟨-, ended⟩ := Service.Call.mk.inj (Option.some.inj (found.symm.trans again))
            exact Service.Phase.finished.inj ended
  · intro who confirmed printer phase confirms asked front event back before after split reached
      step caller refreshing
    exact run_unwritten started trusted ran confirms asked split reached step caller refreshing

end Runs

/-- A printer is refreshed twice.  The second time the server answers that nothing has
changed, and while the answer is on its way something does. -/
def secondRefresh : List Event :=
  [.publish ⟨"office", [42, 80, 80, 68], some "m1"⟩, .service (.call 0 (.refresh "office"))] ++
    List.replicate 4 (.service (.go 0 none)) ++ [.service (.connected 0 (.ok ()))] ++
    List.replicate 2 (.service (.go 0 none)) ++ [.answer 0 false, .deliver 0] ++
    List.replicate 4 (.service (.go 0 none)) ++ List.replicate 6 (.service (.work 0 none)) ++
    [.service (.go 0 none), .service (.call 1 (.refresh "office"))] ++
    List.replicate 6 (.service (.go 1 none)) ++
    [.answer 1 false, .publish ⟨"office", [42, 80], some "m2"⟩, .deliver 1] ++
    List.replicate 4 (.service (.go 1 none))

theorem secondRefresh_fresh :
    ∃ fresh world snapshot, Service.start (.standard "cache") = .ok fresh ∧
      run? { service := fresh } secondRefresh = some world ∧ world.Trusted ∧
      world.service.call? 1 =
        some ⟨.refresh "office", .finished (.refreshed (.ok snapshot))⟩ ∧
      Fresh { service := fresh } secondRefresh world := by
  have trusted {world : World} (published : world.published =
      [⟨"office", [42, 80], some "m2"⟩, ⟨"office", [42, 80, 80, 68], some "m1"⟩]) :
      world.Trusted := by
    intro one member other present
    simp only [published, List.mem_cons, List.not_mem_nil, or_false] at member present
    rcases member with rfl | rfl <;> rcases present with rfl | rfl <;> simp
  exact ⟨_, _, _, rfl, rfl, trusted rfl, rfl,
    run_fresh (show Service.start (.standard "cache") = .ok _ from rfl) (trusted rfl) rfl⟩

end World

end PrintConnector
