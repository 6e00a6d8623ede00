import PrintConnector.Proofs.Service.Stray

namespace PrintConnector.Service

open Cache (Disk Edition Entry Fault FileName Snapshot stemOf)

variable {fresh before after between service later : Service} {event : Event}
  {events front back more : List Event} {who number other : Nat} {printer : String}
  {request : Request} {phase next : Phase} {result : Result} {entry : Entry} {call : Call}
  {marker : Option String} {edition : Edition} {snapshot : Snapshot} {bytes : List UInt8}
  {fault : Option Fault} {error : Error} {settings : Settings}

/-- An entry was made and is not listed any more. -/
structure Struck (service : Service) (number : Nat) : Prop where
  early : number < service.nextEntry
  gone : ∀ printer, service.listed? printer ≠ some number

theorem struck_of_empty (empty : service.listing = []) (early : number < service.nextEntry) :
    service.Struck number := by
  refine ⟨early, fun printer listed => ?_⟩
  rw [listed?, empty] at listed
  contradiction

theorem Struck.step (struck : before.Struck number) (orderly : before.Orderly)
    (taken : before.step? event = some after) : after.Struck number := by
  obtain ⟨early, gone⟩ := orderly.stays_unlisted taken struck.early struck.gone
  exact ⟨early, gone⟩

/-- A call hands out what is known of a printer. -/
inductive Yields : Result → Snapshot → Prop where
  | refreshed {snapshot : Snapshot} : Yields (.refreshed (.ok snapshot)) snapshot
  | cached {snapshot : Snapshot} : Yields (.cached (some snapshot)) snapshot

/-- A call that has not come to a lock yet waits for nobody else. -/
theorem Orderly.moves_early (orderly : before.Orderly) (taken : before.step? event = some after)
    (caller : event.caller? = some who) (asked : before.call? who = some ⟨request, phase⟩)
    (early : phase = .starting ∨ ∃ number, phase = .queued number) :
    (∃ fault, event = .go who fault) ∨ event = .abandon who := by
  have idle : before.jobs.entry? who = none := by
    apply orderly.idle asked
    rcases early with rfl | ⟨number, rfl⟩ <;> rfl
  cases event with
  | call =>
      obtain rfl := Option.some.inj caller
      have known : before.calls.entry? _ = some _ := asked
      simp [step?, enter?, Roster.has, known] at taken
  | go _ fault =>
      obtain rfl := Option.some.inj caller
      exact .inl ⟨fault, rfl⟩
  | abandon =>
      obtain rfl := Option.some.inj caller
      exact .inr rfl
  | connected | reconnected | answered =>
      obtain rfl := Option.some.inj caller
      rcases early with rfl | ⟨number, rfl⟩ <;>
        simp [step?, connected?, reconnected?, answered?, asked] at taken
  | work =>
      obtain rfl := Option.some.inj caller
      simp [step?, work?, idle] at taken
  | reap | lose | removeDirectory | elapse | age => contradiction

/-- A call in line goes on when it comes to hold the lock, or is given up. -/
theorem Orderly.moves_in_line (orderly : before.Orderly) (taken : before.step? event = some after)
    (caller : event.caller? = some who)
    (asked : before.call? who = some ⟨request, .queued number⟩) :
    (∃ entry, before.entry? number = some entry ∧
      after = Service.locked before who number entry request) ∨
      event = .abandon who ∧ after = before.finish who .abandoned := by
  rcases orderly.moves_early taken caller asked (.inr ⟨number, rfl⟩) with ⟨fault, rfl⟩ | rfl
  · obtain ⟨entry, known, -⟩ := (orderly.calls who _ asked).handle number rfl
    simp only [step?, go?, asked, known, Option.bind_eq_bind, Option.bind_some] at taken
    split at taken
    · exact .inl ⟨entry, known, (Option.some.inj taken).symm⟩
    · contradiction
  · simp only [step?, abandon?, asked] at taken
    exact .inr ⟨rfl, (Option.some.inj taken).symm⟩

/-- A refresh that finds its entry off the list when it has the lock starts over. -/
theorem Orderly.restarts (orderly : before.Orderly) (taken : before.step? event = some after)
    (caller : event.caller? = some who)
    (asked : before.call? who = some ⟨.refresh printer, .queued number⟩)
    (gone : ∀ printer, before.listed? printer ≠ some number) :
    after = ((before.unlock who number).setPhase who .starting).sweep ∨
      event = .abandon who ∧ after = before.finish who .abandoned := by
  refine (orderly.moves_in_line taken caller asked).imp_left ?_
  rintro ⟨entry, -, rfl⟩
  rw [Service.locked, if_neg (gone printer)]

theorem Orderly.restarted (orderly : before.Orderly) (taken : before.step? event = some after)
    (caller : event.caller? = some who)
    (asked : before.call? who = some ⟨.refresh printer, .queued number⟩)
    (gone : ∀ printer, before.listed? printer ≠ some number) :
    after.call? who = some ⟨.refresh printer, .starting⟩ ∨
      event = .abandon who ∧
        after.call? who = some ⟨.refresh printer, .finished .abandoned⟩ := by
  rcases orderly.restarts taken caller asked gone with rfl | ⟨rfl, rfl⟩
  · have unlocked : (before.unlock who number).call? who =
        some ⟨.refresh printer, .queued number⟩ := asked
    exact .inl (call?_setPhase_self unlocked)
  · exact .inr ⟨rfl, finish_call? asked⟩

/-- A call that gets in line for an entry finds it on the list or makes it. -/
theorem Orderly.queues (orderly : before.Orderly) (taken : before.step? event = some after)
    (caller : event.caller? = some who) (asked : before.call? who = some ⟨request, .starting⟩)
    (found : after.call? who = some ⟨request, .queued number⟩) :
    (∃ printer, before.listed? printer = some number) ∨ number = before.nextEntry := by
  have same {other : Call} (again : before.call? who = some other) :
      other = ⟨request, .starting⟩ := Option.some.inj (again.symm.trans asked)
  have idle := orderly.idle asked rfl
  have only {last : Phase} (now : after.call? who = some ⟨request, last⟩) :
      last = .queued number := (call?_inj now found).2
  cases move_of_step taken with
  | create asked' =>
      obtain rfl := Option.some.inj caller
      obtain ⟨rfl, -⟩ := Call.mk.inj (same asked')
      exact .inr (Phase.queued.inj (only (call?_setPhase_self asked'))).symm
  | queue asked' _ listed =>
      obtain rfl := Option.some.inj caller
      obtain rfl := Phase.queued.inj (only (call?_setPhase_self asked))
      exact .inl ⟨_, listed⟩
  | strike asked' listed =>
      obtain rfl := Option.some.inj caller
      obtain rfl := Phase.queued.inj (only (call?_setPhase_self asked))
      exact .inl ⟨_, listed⟩
  | drain | query =>
      obtain rfl := Option.some.inj caller
      cases only (call?_setPhase_self asked)
  | finish asked' ends =>
      obtain rfl := Option.some.inj (ends.caller.symm.trans caller)
      cases only (finish_call? asked)
  | enter new =>
      obtain rfl := Option.some.inj caller
      simp [asked] at new
  | advance asked' advanced | ask asked' advanced =>
      obtain rfl := Option.some.inj ((advances_caller advanced).symm.trans caller)
      simp [asked] at asked'
  | fail asked' _ fails =>
      obtain rfl := Option.some.inj caller
      obtain ⟨-, rfl⟩ := Call.mk.inj (same asked')
      cases fails
  | fetch asked' | restart asked' | forget asked' | answer asked' | hear asked' | take asked'
  | settle asked' | unlist asked' | release asked' | shutGate asked' | sealUp asked' =>
      obtain rfl := Option.some.inj caller
      simp [asked] at asked'
  | prepare working | place working | clean working | discard working =>
      obtain rfl := Option.some.inj caller
      simp [idle] at working
  | reap | elapse | age | lose | removeDirectory => contradiction

theorem Phase.Next.handle (turned : phase.Next next) (handle : next.handle? = some number) :
    phase.handle? = some number ∨ phase = .starting ∧ next = .queued number := by
  cases turned with
  | queue => exact .inr ⟨rfl, by rw [Option.some.inj handle]⟩
  | fail fails => exact .inl (fails.handle.trans handle)
  | stay | fetch | advance | take | deliver | unlist => exact .inl handle
  | drain | query | restart | forget | release | acknowledge | shutGate | ask | finish =>
      contradiction

theorem Discards.not_yields (discards : Discards request result) : ¬ Yields result snapshot := by
  rintro yields
  cases discards <;> cases yields

/-- What a call hands out it has from the entry that it has hold of. -/
theorem Orderly.yields (orderly : before.Orderly) (taken : before.step? event = some after)
    (asked : before.call? who = some ⟨request, phase⟩)
    (found : after.call? who = some ⟨request, .finished result⟩) (yields : Yields result snapshot) :
    phase = .finished result ∨
      ∃ number entry, phase.handle? = some number ∧ before.entry? number = some entry ∧
        snapshot.file = entry.file ∧
        (entry.current = some snapshot.edition ∨
          ∃ marker, phase = .replaced number marker (.ok snapshot.edition)) := by
  by_cases caller : event.caller? = some who
  · have same {other : Call} (again : before.call? who = some other) : other = ⟨request, phase⟩ :=
      Option.some.inj (again.symm.trans asked)
    have only {request' : Request} {last : Phase} (now : after.call? who = some ⟨request', last⟩) :
        last = .finished result := (call?_inj now found).2
    cases move_of_step taken with
    | @settle _ number _ marker edition entry _ asked' known =>
        obtain rfl := Option.some.inj caller
        obtain ⟨-, rfl⟩ := Call.mk.inj (same asked')
        cases only (finish_call? (call?_setEntry.trans asked))
        cases yields
        exact .inr ⟨number, entry, rfl, known, rfl, .inr ⟨marker, rfl⟩⟩
    | finish asked' ends =>
        obtain rfl := Option.some.inj (ends.caller.symm.trans caller)
        obtain ⟨rfl, rfl⟩ := Call.mk.inj (same asked')
        cases only (finish_call? asked)
        cases ends with
        | @read _ _ number entry known =>
            cases current : entry.current with
            | none =>
                rw [Entry.snapshot?, current] at yields
                cases yields
            | some edition =>
                rw [Entry.snapshot?, current] at yields
                cases yields
                exact .inr ⟨number, entry, rfl, known, rfl, .inl current⟩
        | confirmed known _ current =>
            cases yields
            exact .inr ⟨_, _, rfl, known, rfl, .inl current⟩
        | discarded =>
            have suits := (orderly.calls _ _ asked).suits
            cases suits with
            | gripping grip => contradiction
            | discarded discards => exact absurd yields discards.not_yields
        | @answered _ _ _ _ outcome => cases outcome <;> cases yields
        | uncreated | unknown | nothing | failed | stopped | abandoned => cases yields
    | @sealUp mover _ _ asked' =>
        obtain rfl := Option.some.inj caller
        have sealed : Service.call? { before with pool := before.pool.sealUp } mover = _ := asked
        cases only (finish_call? sealed)
        cases yields
    | clean =>
        obtain rfl := Option.some.inj caller
        unfold deliver at only
        split at only
        · cases only (call?_setPhase_self asked)
        · exact .inl (only asked)
    | discard =>
        obtain rfl := Option.some.inj caller
        rw [discardStep_call?] at only
        unfold acknowledge at only
        split at only
        · cases only (call?_setPhase_self asked)
        · exact .inl (only asked)
    | prepare | place =>
        obtain rfl := Option.some.inj caller
        exact .inl (only asked)
    | enter new =>
        obtain rfl := Option.some.inj caller
        simp [asked] at new
    | advance asked' advanced | ask asked' advanced =>
        obtain rfl := Option.some.inj ((advances_caller advanced).symm.trans caller)
        cases only (call?_setPhase_self asked')
    | answer asked' received =>
        obtain rfl := Option.some.inj caller
        rw [(received_inv received).1] at only
        cases only (call?_setPhase_self asked)
    | hear asked' received =>
        obtain rfl := Option.some.inj caller
        rw [(receivedAny_inv received).1] at only
        cases only (call?_setPhase_self asked)
    | @restart mover number =>
        obtain rfl := Option.some.inj caller
        have unlocked : (before.unlock mover number).call? mover = _ := asked
        cases only (call?_setPhase_self unlocked)
    | unlist =>
        obtain rfl := Option.some.inj caller
        cases only (call?_setPhase_self (strikeEntry_call?.trans asked))
    | create | queue | strike | drain | query | fetch | forget | take | fail | release | shutGate =>
        obtain rfl := Option.some.inj caller
        cases only (call?_setPhase_self asked)
    | reap | elapse | age | lose | removeDirectory => contradiction
  · rw [(orderly.stays taken caller).1, asked] at found
    exact .inl (Call.mk.inj (Option.some.inj found)).2

/-- A call has nothing to do with an entry, but for waiting for its lock as a refresh
does. -/
structure Shuns (service : Service) (who number : Nat) : Prop where
  waits : ∀ call, service.call? who = some call → call.phase.handle? = some number →
    call.phase = .queued number ∧ ∃ printer, call.request = .refresh printer
  yields : ∀ call result snapshot, service.call? who = some call → call.phase = .finished result →
    Yields result snapshot → snapshot.file.tag ≠ number
  job : ∀ download target progress,
    service.jobs.entry? who = some (.replace download target progress) → target.tag ≠ number

theorem Shuns.not_grips (shuns : service.Shuns who number) : ¬ service.Grips who number := by
  rintro ⟨request, phase, found, grip⟩
  obtain ⟨doing, -⟩ := shuns.waits _ found (handle?_of_grip grip)
  simp only at doing
  simp [doing, Phase.grip?] at grip

section Step

variable (struck : before.Struck number) (orderly : before.Orderly)
  (taken : before.step? event = some after)

include orderly taken

/-- Whoever waits for an entry that was struck off the list does not get to it. -/
theorem Shuns.waits_step (struck : before.Struck number) (shuns : before.Shuns who number)
    (caller : event.caller? = some who) (found : after.call? who = some ⟨request, next⟩) :
    next.handle? ≠ some number := by
  intro handle
  cases old : before.call? who with
  | none =>
      obtain ⟨_, -, same⟩ := orderly.entered taken old found
      obtain ⟨-, rfl⟩ := Call.mk.inj same
      contradiction
  | some call =>
      obtain ⟨asks, phase⟩ := call
      obtain ⟨_, known, turned⟩ := next_of_move (move_of_step taken) caller old
      obtain ⟨rfl, rfl⟩ := call?_inj known found
      rcases turned.handle handle with held | ⟨rfl, rfl⟩
      · obtain ⟨doing, printer, asks⟩ := shuns.waits _ old held
        obtain rfl : phase = .queued number := doing
        subst asks
        rcases orderly.restarted taken caller old struck.gone with now | ⟨-, now⟩ <;>
          obtain ⟨-, rfl⟩ := call?_inj now found <;> contradiction
      · rcases orderly.queues taken caller old found with ⟨printer, listed⟩ | rfl
        · exact struck.gone printer listed
        · exact absurd struck.early (Nat.lt_irrefl _)

theorem Shuns.step (struck : before.Struck number) (shuns : before.Shuns who number) :
    after.Shuns who number := by
  by_cases caller : event.caller? = some who
  · refine ⟨?_, ?_, ?_⟩
    · intro call found handle
      exact absurd handle (shuns.waits_step orderly taken struck caller found)
    · rintro ⟨request, phase⟩ result snapshot found rfl yields
      cases old : before.call? who with
      | none =>
          obtain ⟨_, -, same⟩ := orderly.entered taken old found
          cases same
      | some call =>
          obtain ⟨asks, phase⟩ := call
          obtain ⟨_, known, -⟩ := next_of_move (move_of_step taken) caller old
          obtain ⟨rfl, -⟩ := call?_inj known found
          rcases orderly.yields taken old found yields with
            rfl | ⟨number', entry, handle, there, file, -⟩
          · exact shuns.yields _ _ _ old rfl yields
          · rw [file, (orderly.named number' entry there).1]
            rintro rfl
            -- The only hold that the call can have of it is to wait, which yields nothing.
            obtain ⟨doing, printer, asks⟩ := shuns.waits _ old handle
            obtain rfl : phase = .queued number' := doing
            subst asks
            rcases orderly.restarted taken caller old struck.gone with now | ⟨-, now⟩ <;>
              cases now.symm.trans found
            cases yields
    · intro download target progress working
      cases orderly.hauls (move_of_step taken) caller working with
      | take asked concluded known file =>
          rw [← file, (orderly.named _ _ known).1]
          rintro rfl
          exact shuns.not_grips ⟨_, _, asked, rfl⟩
      | prepare earlier | place earlier | desert _ earlier => exact shuns.job _ _ _ earlier
  · obtain ⟨calls, jobs⟩ := orderly.stays taken caller
    refine ⟨?_, ?_, ?_⟩
    · rw [calls]
      exact shuns.waits
    · rw [calls]
      exact shuns.yields
    · rw [jobs]
      exact shuns.job

/-- A call leaves an entry that it shuns as it is, or is the last to let go of it. -/
theorem Shuns.leaves (shuns : before.Shuns who number) (caller : event.caller? = some who)
    (found : before.entry? number = some entry) :
    (∃ kept, after.entry? number = some kept ∧ Agrees entry kept ∧
      after.disk.content? entry.file = before.disk.content? entry.file) ∨
      after.Drops number entry.file := by
  have course := orderly.course (move_of_step taken) caller
  obtain ⟨file, -⟩ := orderly.named number entry found
  rcases course.entries number entry found with ⟨kept, known, becomes⟩ | dropped
  · refine .inl ⟨kept, known, ?_, ?_⟩
    · rcases becomes.settled with ⟨marker, current⟩ | ⟨edition, settles, -⟩
      · exact ⟨becomes.printer, becomes.file, marker, current⟩
      · obtain ⟨⟨request, phase⟩, asked, rfl⟩ := call?_of_phase? settles
        exact absurd ⟨_, _, asked, rfl⟩ shuns.not_grips
    · have refers := (orderly.step taken).referenced number kept known
      rcases course.content orderly.named found refers with same | ⟨download, copy, working, -⟩
      · exact same
      · exact absurd (by rw [file]) (shuns.job _ _ _ working)
  · exact .inr dropped

end Step

/-- A call that has not come yet, and a refresh that waits for an entry. -/
theorem Orderly.shuns (orderly : service.Orderly)
    (apart : service.call? who = none ∨
      ∃ printer, service.call? who = some ⟨.refresh printer, .queued number⟩) :
    service.Shuns who number := by
  rcases apart with missing | ⟨printer, asked⟩
  · refine ⟨?_, ?_, ?_⟩
    · simp [missing]
    · simp [missing]
    · intro download target progress working
      obtain ⟨call, found⟩ := orderly.jobs who _ working
      simp [missing] at found
  · refine ⟨?_, ?_, ?_⟩
    · intro call found _
      obtain rfl := Option.some.inj (asked.symm.trans found)
      exact ⟨rfl, printer, rfl⟩
    · intro call result snapshot found doing
      obtain rfl := Option.some.inj (asked.symm.trans found)
      contradiction
    · simp [orderly.idle asked rfl]

/-- The server sent a document to a refresh that was at work on an entry. -/
def Fed (fresh : Service) (events : List Event) (number : Nat) (bytes : List UInt8)
    (marker : Option String) : Prop :=
  ∃ front who back before,
    events = front ++ .answered who (.ok (.ppd (.document bytes marker))) :: back ∧
    fresh.run? front = some before ∧ before.Grips who number

theorem Fed.append (fed : Fed fresh events number bytes marker) (more : List Event) :
    Fed fresh (events ++ more) number bytes marker := by
  obtain ⟨front, who, back, before, rfl, reached, grips⟩ := fed
  exact ⟨front, who, back ++ more, before, by simp, reached, grips⟩

/-- A call is at work on one entry only. -/
theorem Orderly.grips_one (orderly : before.Orderly) (ran : before.run? events = some after)
    (gripped : before.Grips who number) (grips : after.Grips who other) : number = other := by
  have last : after.Grips who number ∨
      ∃ request phase, after.call? who = some ⟨request, phase⟩ ∧ phase.isPast = true := by
    refine orderly.induct (P := fun service => service.Grips who number ∨
      ∃ request phase, service.call? who = some ⟨request, phase⟩ ∧ phase.isPast = true) ran
      (.inl gripped) ?_
    rintro event one two order taken (⟨request, phase, found, grip⟩ | ⟨request, phase, found, past⟩)
    · obtain ⟨next, now, turned⟩ := order.next_phase taken found
      exact (turned.grip grip).imp (⟨request, next, now, ·⟩) (⟨request, next, now, ·⟩)
    · obtain ⟨next, now, turned⟩ := order.next_phase taken found
      exact .inr ⟨request, next, now, turned.past past⟩
  obtain ⟨request, phase, found, grip⟩ := grips
  rcases last with ⟨_, _, again, also⟩ | ⟨_, _, again, past⟩
  · obtain ⟨-, rfl⟩ := call?_inj found again
    exact Option.some.inj (also.symm.trans grip)
  · obtain ⟨-, rfl⟩ := call?_inj found again
    cases phase <;> contradiction

theorem fed_of_came (started : start settings = .ok fresh) (ran : fresh.run? events = some service)
    (came : Came events who bytes marker) (grips : service.Grips who number) :
    Fed fresh events number bytes marker := by
  obtain ⟨front, back, rfl⟩ := List.append_of_mem came
  obtain ⟨before, reached, rest⟩ := run?_split ran
  have orderly := (start_orderly started).run reached
  obtain ⟨between, taken, -⟩ := run?_cons.mp rest
  have asks : ∀ call, before.call? who = some call →
      ∃ printer, call.request = .refresh printer := by
    rintro ⟨request, phase⟩ found
    obtain ⟨later, known⟩ := orderly.keeps_request rest found
    obtain ⟨_, _, again, grip⟩ := grips
    obtain ⟨rfl, rfl⟩ := call?_inj known again
    obtain ⟨printer, refreshes, -⟩ :=
      (((start_orderly started).run ran).calls who _ known).grip _ grip
    exact ⟨printer, refreshes⟩
  refine ⟨front, who, back, before, rfl, reached, ?_⟩
  cases move_of_step taken with
  | answer asked =>
      have gripped : before.Grips who _ := ⟨_, _, asked, rfl⟩
      exact orderly.grips_one rest gripped grips ▸ gripped
  | hear asked =>
      obtain ⟨printer, refreshes⟩ := asks _ asked
      obtain rfl := refreshes
      cases (orderly.calls who _ asked).suits with
      | gripping grip => contradiction
  | advance _ advanced | ask _ advanced => cases advanced
  | finish _ ends => cases ends

/-- What an entry holds was sent to a refresh that was at work on it. -/
inductive Filled (fresh : Service) (events : List Event) (number : Nat) (entry : Entry) : Prop where
  | empty (current : entry.current = none) (marker : entry.marker = none)
  | fed {edition : Edition} {bytes : List UInt8} (current : entry.current = some edition)
      (isOf : edition.IsOf bytes) (sent : Fed fresh events number bytes entry.marker)

structure Sourced (fresh : Service) (events : List Event) (service : Service) : Prop where
  entries : ∀ number entry, service.entry? number = some entry → Filled fresh events number entry
  given : ∀ who request result snapshot, service.call? who = some ⟨request, .finished result⟩ →
    Yields result snapshot → ∃ bytes marker, Fed fresh events snapshot.file.tag bytes marker ∧
      snapshot.edition.IsOf bytes

theorem Filled.step {kept : Entry} (filled : Filled fresh events number entry)
    (marker : kept.marker = entry.marker) (current : kept.current = entry.current)
    (more : List Event) : Filled fresh (events ++ more) number kept := by
  cases filled with
  | empty nothing unmarked => exact .empty (current.trans nothing) (marker.trans unmarked)
  | fed holds isOf sent => exact .fed (current.trans holds) isOf (marker ▸ sent.append more)

/-- What a refresh has in hand for an entry was sent to it at work on that entry. -/
theorem Orderly.fed (orderly : service.Orderly) (started : start settings = .ok fresh)
    (ran : fresh.run? events = some service)
    (doing : service.phase? who = some (.replaced number marker (.ok edition))) :
    ∃ bytes, Fed fresh events number bytes marker ∧ edition.IsOf bytes := by
  obtain ⟨⟨request, _⟩, asked, rfl⟩ := call?_of_phase? doing
  obtain ⟨printer, rfl, -⟩ := orderly.holds asked rfl
  obtain ⟨bytes, came, isOf, -⟩ :=
    (run_tended started ran).2.landed who number printer marker edition (.replaced asked)
  exact ⟨bytes, fed_of_came started ran came ⟨_, _, asked, rfl⟩, isOf⟩

theorem Sourced.step (sourced : Sourced fresh front before) (orderly : before.Orderly)
    (started : start settings = .ok fresh) (reached : fresh.run? front = some before)
    (taken : before.step? event = some after) : Sourced fresh (front ++ [event]) after where
  entries number entry known := by
    have moved := move_of_step taken
    cases caller : event.caller? with
    | none =>
        have same : after.entry? number = before.entry? number := by
          cases moved.aside caller <;> rfl
        exact (sourced.entries number entry (same.symm.trans known)).step rfl rfl _
    | some mover =>
        have course := orderly.course moved caller
        cases found : before.entry? number with
        | none =>
            have made := Option.some.inj
              (known.symm.trans (course.fresh number entry found known).known)
            rw [made]
            exact .empty rfl rfl
        | some old =>
            rcases course.entries number old found with ⟨_, again, becomes⟩ | dropped
            · obtain rfl := Option.some.inj (known.symm.trans again)
              rcases becomes.settled with ⟨marker, current⟩ | ⟨edition, settles, current⟩
              · exact (sourced.entries number old found).step marker current _
              · obtain ⟨bytes, fed, isOf⟩ := orderly.fed started reached settles
                exact .fed current isOf (fed.append _)
            · simp [dropped.missing] at known
  given who request result snapshot found yields := by
    cases old : before.call? who with
    | none =>
        obtain ⟨_, -, same⟩ := orderly.entered taken old found
        cases same
    | some call =>
        obtain ⟨asks, phase⟩ := call
        obtain ⟨_, known, -⟩ := orderly.next_phase taken old
        obtain ⟨rfl, -⟩ := call?_inj known found
        rcases orderly.yields taken old found yields with
          rfl | ⟨number, entry, -, there, file, current | ⟨marker, rfl⟩⟩
        · obtain ⟨bytes, marker, fed, isOf⟩ := sourced.given _ _ _ _ old yields
          exact ⟨bytes, marker, fed.append _, isOf⟩
        · rw [file, (orderly.named number entry there).1]
          cases sourced.entries number entry there with
          | empty nothing => simp [nothing] at current
          | fed holds isOf sent =>
              obtain rfl := Option.some.inj (holds.symm.trans current)
              exact ⟨_, _, sent.append _, isOf⟩
        · rw [file, (orderly.named number entry there).1]
          obtain ⟨bytes, fed, isOf⟩ := orderly.fed started reached (phase?_of_call? old)
          exact ⟨bytes, marker, fed.append _, isOf⟩

theorem run_sourced (started : start settings = .ok fresh)
    (ran : fresh.run? events = some service) : Sourced fresh events service := by
  refine (start_orderly started).induct_told (P := Sourced fresh) ran ?_ ?_
  · obtain rfl := start_inv started
    refine ⟨?_, ?_⟩
    · intro number entry found
      contradiction
    · intro who request result snapshot found
      contradiction
  · intro front event before after reached orderly taken sourced
    exact sourced.step orderly started reached taken

/-- A refresh that failed on an entry strikes no other one off the list. -/
theorem Orderly.unlists (orderly : before.Orderly) (taken : before.step? event = some after)
    (caller : event.caller? = some who)
    (asked : before.call? who = some ⟨request, .failed number error⟩)
    (gone : ∀ printer, before.listed? printer ≠ some number) : after.listing = before.listing := by
  have idle := orderly.idle asked rfl
  cases event with
  | call =>
      obtain rfl := Option.some.inj caller
      have known : before.calls.entry? _ = some _ := asked
      simp [step?, enter?, Roster.has, known] at taken
  | go mover fault =>
      obtain rfl := Option.some.inj caller
      obtain ⟨entry, known, -⟩ := (orderly.calls mover _ asked).handle number rfl
      simp only [step?, go?, asked, known, Option.bind_eq_bind, Option.bind_some] at taken
      rw [strikeEntry, if_neg (gone entry.printer)] at taken
      rw [← Option.some.inj taken]
      rfl
  | abandon | connected | reconnected | answered =>
      obtain rfl := Option.some.inj caller
      simp [step?, abandon?, connected?, reconnected?, answered?, asked] at taken
  | work =>
      obtain rfl := Option.some.inj caller
      simp [step?, work?, idle] at taken
  | reap | lose | removeDirectory | elapse | age => contradiction

/-- A refresh starts with the listed entry of its printer, which it makes if there is
none. -/
theorem begins_listed (asked : before.call? who = some ⟨.refresh printer, .starting⟩)
    (taken : before.step? (.go who fault) = some after) :
    (∃ number, after.call? who = some ⟨.refresh printer, .queued number⟩ ∧
      after.listed? printer = some number ∧
        (before.listed? printer = some number ∨ number = before.nextEntry)) ∨
    ∃ error, after.call? who = some ⟨.refresh printer, .finished (.refreshed (.error error))⟩ := by
  have begun : before.begin who (.refresh printer) fault = after := by
    simpa [step?, go?, asked] using taken
  rw [begin, findOrCreate] at begun
  cases listed : before.listed? printer with
  | some number =>
      simp only [listed] at begun
      rw [← begun]
      exact .inl ⟨number, call?_setPhase_self asked, listed, .inl rfl⟩
  | none =>
      cases created : before.disk.create ⟨stemOf printer, before.nextEntry⟩ fault with
      | ok disk =>
          simp only [listed, created] at begun
          rw [← begun]
          refine .inl ⟨before.nextEntry, call?_setPhase_self asked, ?_, .inr rfl⟩
          refine (listed?_append printer).trans ?_
          rw [listed, if_pos rfl]
          rfl
      | error error =>
          simp only [listed, created] at begun
          rw [← begun]
          exact .inr ⟨error, finish_call? asked⟩

/-- The marker that a refresh sends is none, or it came with a document for the same
entry. -/
theorem Sourced.asks {sent : String} (sourced : Sourced fresh events service)
    (found : service.call? who = some ⟨.refresh printer, phase⟩) (orderly : service.Orderly)
    (needs : service.need who = .answer (.ppd sent marker)) :
    ∃ number exchange, phase = .fetching number exchange ∧
      (marker = none ∨ ∃ bytes, Fed fresh events number bytes marker) := by
  have suits := (orderly.calls who _ found).suits
  simp only [need, found] at needs
  cases phase with
  | fetching number exchange =>
      refine ⟨number, exchange, rfl, ?_⟩
      obtain ⟨entry, known, -⟩ := (orderly.calls who _ found).handle number rfl
      simp only [known] at needs
      obtain rfl : marker = entry.marker := by
        cases exchanging : exchange.need service.pool who <;> simp [exchanging, needOf] at needs
        exact needs.2.symm
      cases sourced.entries number entry known with
      | empty _ unmarked => exact .inl unmarked
      | fed _ _ sent => exact .inr ⟨_, sent⟩
  | asking query exchange =>
      cases suits with
      | gripping grip => contradiction
  | queued number =>
      simp only at needs
      split at needs
      · split at needs <;> contradiction
      · contradiction
  | starting | replacing | replaced | failed | unlisted | discarding | discarded | sealing
  | finished => contradiction

/-- What an entry that was struck off the list when a service had got to one state has to
do with it when it has got to a later one. -/
structure Isolated (fresh : Service) (events : List Event) (service later : Service)
    (number : Nat) : Prop where
  gone : later.Struck number
  /-- A refresh that only then has the lock asks nobody for anything and starts over. -/
  lock : ∀ who printer event after,
    later.call? who = some ⟨.refresh printer, .queued number⟩ →
    later.step? event = some after → event.caller? = some who →
    after.pool = later.pool ∧ after.jobs = later.jobs ∧ after.listing = later.listing ∧
      (after.call? who = some ⟨.refresh printer, .starting⟩ ∨ event = .abandon who)
  /-- It then goes by the entry that is listed. -/
  anew : ∀ who printer fault after, later.call? who = some ⟨.refresh printer, .starting⟩ →
    later.step? (.go who fault) = some after →
    (∃ other, other ≠ number ∧ after.listed? printer = some other ∧
      after.call? who = some ⟨.refresh printer, .queued other⟩) ∨
    ∃ error, after.call? who = some ⟨.refresh printer, .finished (.refreshed (.error error))⟩
  /-- Never again does it get to work on the old entry, nor does it change that. -/
  waits : ∀ who printer, service.call? who = some ⟨.refresh printer, .queued number⟩ →
    ¬ later.Grips who number ∧ ∀ event after entry, later.step? event = some after →
      event.caller? = some who → later.entry? number = some entry →
      (∃ kept, after.entry? number = some kept ∧ Agrees entry kept ∧
        after.disk.content? entry.file = later.disk.content? entry.file) ∨
        after.Drops number entry.file
  /-- A refresh that failed on the old entry leaves the list as it is. -/
  fails : ∀ who request error event after,
    later.call? who = some ⟨request, .failed number error⟩ →
    later.step? event = some after → event.caller? = some who → after.listing = later.listing
  /-- No refresh strikes any entry but the one it failed on. -/
  strikes : ∀ who printer phase event after name other,
    later.call? who = some ⟨.refresh printer, phase⟩ →
    later.step? event = some after → event.caller? = some who →
    later.listed? name = some other →
      after.listed? name = some other ∨ ∃ error, phase = .failed other error
  /-- A call that came only then sends no marker but one that came with a document for the
  entry it is at work on, which is another one. -/
  asks : ∀ who printer phase sent marker, service.call? who = none →
    later.call? who = some ⟨.refresh printer, phase⟩ →
    later.need who = .answer (.ppd sent marker) →
    ∃ other exchange, phase = .fetching other exchange ∧ other ≠ number ∧
      (marker = none ∨ ∃ bytes, Fed fresh events other bytes marker)
  /-- And it hands out nothing but what was sent for another entry. -/
  yields : ∀ who request result snapshot, service.call? who = none →
    later.call? who = some ⟨request, .finished result⟩ → Yields result snapshot →
    snapshot.file.tag ≠ number ∧ ∃ bytes marker,
      Fed fresh events snapshot.file.tag bytes marker ∧ snapshot.edition.IsOf bytes

/-- However calls come after each other, what they do for the entry of a printer that is
listed has nothing to do with an entry that was struck off the list before. -/
theorem run_isolated (started : start settings = .ok fresh) (ran : fresh.run? events = some service)
    (struck : service.Struck number) (onward : service.run? more = some later) :
    Isolated fresh (events ++ more) service later number := by
  have first := start_orderly started
  have order := first.run ran
  have orderly := order.run onward
  have whole := run?_append_of ran onward
  have sourced := run_sourced started whole
  have gone : later.Struck number :=
    order.induct (P := fun service => service.Struck number) onward struck
      fun _ _ _ orderly taken struck => struck.step orderly taken
  have shuns {who : Nat} (apart : service.call? who = none ∨
      ∃ printer, service.call? who = some ⟨.refresh printer, .queued number⟩) :
      later.Shuns who number := by
    refine (order.induct (P := fun service => service.Struck number ∧ service.Shuns who number)
      onward ⟨struck, order.shuns apart⟩ ?_).2
    rintro event one two orderly taken ⟨struck, shuns⟩
    exact ⟨struck.step orderly taken, shuns.step orderly taken struck⟩
  refine
    { gone, lock := ?_, anew := ?_, waits := ?_, fails := ?_, strikes := ?_, asks := ?_
      yields := ?_ }
  · intro who printer event after asked taken caller
    rcases orderly.restarts taken caller asked gone.gone with rfl | ⟨rfl, rfl⟩
    · rcases orderly.restarted taken caller asked gone.gone with now | ⟨stopped, -⟩
      · exact ⟨rfl, rfl, rfl, .inl now⟩
      · exact ⟨rfl, rfl, rfl, .inr stopped⟩
    · obtain ⟨middle, -, same, jobs, -⟩ := finish_frame later who .abandoned
      refine ⟨?_, finish_jobs, ?_, .inr rfl⟩ <;> unfold finish <;> split <;> rfl
  · intro who printer fault after asked taken
    refine (begins_listed asked taken).imp_left ?_
    rintro ⟨other, found, listed, old | rfl⟩
    · exact ⟨other, fun same => gone.gone printer (same ▸ old), listed, found⟩
    · exact ⟨_, (Nat.ne_of_lt gone.early).symm, listed, found⟩
  · intro who printer asked
    have apart := shuns (.inr ⟨printer, asked⟩)
    refine ⟨apart.not_grips, ?_⟩
    intro event after entry taken caller found
    exact apart.leaves orderly taken caller found
  · intro who request error event after asked taken caller
    exact orderly.unlists taken caller asked gone.gone
  · intro who printer phase event after name other found taken caller listed
    refine ((orderly.course (move_of_step taken) caller).struck name other listed).imp_right ?_
    rintro (⟨asked, -⟩ | asked | asked)
    · cases found.symm.trans asked
    · cases found.symm.trans asked
    · obtain ⟨-, rfl⟩ := call?_inj found asked
      exact ⟨_, rfl⟩
  · intro who printer phase sent marker missing found needs
    obtain ⟨other, exchange, rfl, told⟩ := sourced.asks found orderly needs
    refine ⟨other, exchange, rfl, ?_, told⟩
    rintro rfl
    exact (shuns (.inl missing)).not_grips ⟨_, _, found, rfl⟩
  · intro who request result snapshot missing found yields
    exact ⟨(shuns (.inl missing)).yields _ _ _ found rfl yields,
      sourced.given _ _ _ _ found yields⟩

/-- A printer is refreshed, and is forgotten while a second refresh of it waits for the
lock. -/
def forgottenInLine : List Event :=
  firstRefresh ++
    [.call 1 (.refresh "office"), .go 1 none, .call 2 (.invalidate "office"), .go 2 none]

/-- The refresh starts over with a new entry, for which it sends no marker. -/
theorem forgottenInLine_isolated :
    ∃ fresh service later, start (.standard "cache") = .ok fresh ∧
      fresh.run? forgottenInLine = some service ∧ service.Struck 0 ∧
      service.call? 1 = some ⟨.refresh "office", .queued 0⟩ ∧
      service.run? [.go 1 none, .go 1 none, .go 1 none, .go 1 none, .go 1 none, .go 1 none,
        .go 1 none] = some later ∧
      later.listed? "office" = some 1 ∧ later.need 1 = .answer (.ppd "office" none) ∧
      Isolated fresh (forgottenInLine ++ [.go 1 none, .go 1 none, .go 1 none, .go 1 none,
        .go 1 none, .go 1 none, .go 1 none]) service later 0 := by
  have started : start (.standard "cache") =
      .ok { pool := .start (.ofSettings (.standard "cache")) } := rfl
  have ran : run? { pool := .start (.ofSettings (.standard "cache")) } forgottenInLine =
      some _ := rfl
  refine ⟨_, _, _, started, ran, struck_of_empty rfl (Nat.lt_succ_self 0), rfl, rfl, rfl, rfl, ?_⟩
  exact run_isolated started ran (struck_of_empty rfl (Nat.lt_succ_self 0)) rfl

end PrintConnector.Service
