import PrintConnector.Proofs.Service.Lend

namespace PrintConnector.Service

open Cache (Disk Edition Entry Fault stemOf)

variable {service before middle after : Service} {event : Event} {who other number lock : Nat}
  {request : Request} {phase next : Phase} {result : Result} {job : Job} {entries : List Nat}
  {fault : Option Fault} {settings : Settings}

def InLine (service : Service) (who number : Nat) : Prop :=
  ∃ entry, service.entry? number = some entry ∧ who ∈ entry.line

/-- A call or its job has hold of an entry. -/
inductive Claims (service : Service) (who number : Nat) : Prop where
  | call {call : Call} (asked : service.call? who = some call)
      (handle : call.phase.handle? = some number)
  | job {entries : List Nat} (working : service.jobs.entry? who = some (.discard entries))
      (member : number ∈ entries)

/-- Phases in which a call waits for its job. -/
def Phase.awaitsJob : Phase → Bool
  | .replacing .. | .discarding _ => true
  | _ => false

/-- A call is in line for the entry that it has hold of.  After that it is in line only as
long as its job still has to let go of the entry. -/
structure Lined (service : Service) (who : Nat) : Prop where
  waits : ∀ call number, service.call? who = some call → call.phase.handle? = some number →
    service.InLine who number
  stays : ∀ number, service.InLine who number → service.Claims who number
  works : ∀ call, service.call? who = some call → call.phase.awaitsJob = true →
    ∃ job, service.jobs.entry? who = some job

section Places

theorem inLine_setEntry {change : Entry → Entry}
    (same : ∀ entry, (change entry).line = entry.line) :
    (service.setEntry lock change).InLine who number ↔ service.InLine who number := by
  simp only [InLine, entry?_setEntry]
  split
  · rename_i here
    subst here
    simp [Option.map_eq_some_iff, same]
  · rfl

theorem inLine_enqueue :
    (service.enqueue other lock).InLine who number ↔ service.InLine who number ∨
      who = other ∧ number = lock ∧ ∃ entry, service.entry? lock = some entry := by
  simp only [InLine, enqueue, entry?_setEntry]
  by_cases here : number = lock
  · subst here
    cases service.entry? number <;> simp
  · simp [here]

theorem inLine_unlock :
    (service.unlock other lock).InLine who number ↔
      service.InLine who number ∧ ¬ (who = other ∧ number = lock) := by
  simp only [InLine, unlock, entry?_setEntry]
  by_cases here : number = lock
  · subst here
    cases service.entry? number <;> simp
  · simp [here]

theorem inLine_sweep (there : service.sweep.InLine who number) : service.InLine who number := by
  obtain ⟨entry, found, member⟩ := there
  rw [entry?_sweep] at found
  split at found
  · exact ⟨entry, found, member⟩
  · contradiction

/-- A call that ends leaves the line that it is in. -/
theorem inLine_finish (asked : service.call? who = some ⟨request, phase⟩)
    (there : (service.finish who result).InLine who number) :
    service.InLine who number ∧ phase.handle? ≠ some number := by
  have doing := phase?_of_call? asked
  unfold finish at there
  rw [doing, Option.bind_some] at there
  split at there
  · rename_i held handle
    have left : (service.unlock who held).InLine who number :=
      @inLine_sweep ((service.unlock who held).setPhase who (.finished result)) _ _ there
    obtain ⟨inside, apart⟩ := inLine_unlock.mp left
    refine ⟨inside, fun same => apart ⟨rfl, ?_⟩⟩
    exact (Option.some.inj (handle.symm.trans same)).symm
  · rename_i loose
    have kept : service.InLine who number :=
      @inLine_sweep (service.setPhase who (.finished result)) _ _ there
    exact ⟨kept, by simp [loose]⟩

theorem inLine_unlockAll :
    (entries.foldl (fun service number => service.unlock who number) service).InLine who number ↔
      service.InLine who number ∧ number ∉ entries := by
  induction entries generalizing service with
  | nil => simp
  | cons first entries ih =>
      rw [List.foldl_cons, ih, inLine_unlock]
      simp [and_assoc]

theorem inLine_discardStep (there : (service.discardStep who entries).InLine who number) :
    service.InLine who number ∧ number ∉ entries := by
  have between := inLine_sweep there
  unfold acknowledge at between
  split at between <;> exact inLine_unlockAll.mp between

end Places

theorem lined_of (found : after.call? who = some ⟨request, next⟩)
    (waits : ∀ number, next.handle? = some number → after.InLine who number)
    (stays : ∀ number, after.InLine who number → after.Claims who number)
    (works : next.awaitsJob = true → ∃ job, after.jobs.entry? who = some job) :
    after.Lined who := by
  refine ⟨?_, stays, ?_⟩
  · intro call number known handle
    obtain rfl := Option.some.inj (found.symm.trans known)
    exact waits number handle
  · intro call known busy
    obtain rfl := Option.some.inj (found.symm.trans known)
    exact works busy

theorem lined_awaitLock (asked : middle.call? who = some ⟨request, .starting⟩)
    (there : ∃ entry, middle.entry? number = some entry)
    (apart : ∀ other, ¬ middle.InLine who other) : (middle.awaitLock who number).Lined who := by
  have found : (middle.awaitLock who number).call? who = some ⟨request, .queued number⟩ :=
    call?_setPhase_self asked
  have lines (other : Nat) : (middle.awaitLock who number).InLine who other ↔ _ :=
    @inLine_enqueue middle who who other number
  refine lined_of found ?_ ?_ (by simp [Phase.awaitsJob])
  · intro other held
    obtain rfl := Option.some.inj held
    exact (lines number).mpr (.inr ⟨rfl, rfl, there⟩)
  · intro other inside
    rcases (lines other).mp inside with already | ⟨-, rfl, -⟩
    · exact absurd already (apart other)
    · exact .call found rfl

section Own

variable (asked : before.call? who = some ⟨request, phase⟩)

include asked

theorem Orderly.claimed (orderly : before.Orderly) (rests : phase.works = false)
    (claims : before.Claims who number) : phase.handle? = some number := by
  cases claims with
  | call again handle =>
      obtain rfl := Option.some.inj (asked.symm.trans again)
      exact handle
  | job working => simp [orderly.idle asked rests] at working

/-- The lines stay as they are, and what the call has hold of stays in its hold or
in that of its job. -/
theorem Lined.keep (lined : before.Lined who) (found : after.call? who = some ⟨request, next⟩)
    (kept : after.entries = before.entries)
    (handle : ∀ number, next.handle? = some number → phase.handle? = some number)
    (claims : ∀ number, before.Claims who number → after.Claims who number)
    (works : next.awaitsJob = true → ∃ job, after.jobs.entry? who = some job) :
    after.Lined who := by
  have same (number : Nat) : after.InLine who number ↔ before.InLine who number := by
    rw [InLine, InLine, entry?, entry?, kept]
  refine lined_of found ?_ ?_ works
  · intro number held
    exact (same number).mpr (lined.waits _ number asked (handle number held))
  · intro number there
    exact claims number (lined.stays number ((same number).mp there))

/-- The same, where the call does not change what it has hold of. -/
theorem Lined.advance (lined : before.Lined who) (found : after.call? who = some ⟨request, next⟩)
    (kept : after.entries = before.entries) (jobs : after.jobs = before.jobs)
    (handle : next.handle? = phase.handle?) (works : next.awaitsJob = false) :
    after.Lined who := by
  refine lined.keep asked found kept (fun _ => handle.symm.trans) ?_ (by simp [works])
  rintro number (⟨again, held⟩ | ⟨working, member⟩)
  · obtain rfl := Option.some.inj (asked.symm.trans again)
    exact .call found (handle.trans held)
  · exact .job (by rw [jobs]; exact working) member

/-- The call lets go of what it has hold of. -/
theorem Lined.leave (lined : before.Lined who) (found : after.call? who = some ⟨request, next⟩)
    (loose : next.handle? = none) (works : next.awaitsJob = false)
    (leaves : ∀ number, after.InLine who number →
      before.InLine who number ∧ phase.handle? ≠ some number)
    (jobs : after.jobs = before.jobs) : after.Lined who := by
  refine lined_of found (by simp [loose]) ?_ (by simp [works])
  intro number there
  obtain ⟨inside, other⟩ := leaves number there
  cases lined.stays number inside with
  | call again handle =>
      obtain rfl := Option.some.inj (asked.symm.trans again)
      exact absurd handle other
  | job working member => exact .job (by rw [jobs]; exact working) member

end Own

/-- What a job does to the line that its call is in. -/
theorem Lined.work (lined : before.Lined who) (orderly : before.Orderly)
    (moved : before.Move (.work who fault) after) : after.Lined who := by
  cases moved with
  | prepare working | place working =>
      obtain ⟨⟨request, phase⟩, asked⟩ := orderly.jobs who _ working
      refine lined.keep asked asked rfl (fun _ => id) ?_ fun _ => ⟨_, jobs_setJob working⟩
      rintro number (⟨again, handle⟩ | ⟨discarding, -⟩)
      · exact .call again handle
      · simp [working] at discarding
  | @clean _ download _ outcome _ working =>
      let ended := { before with disk := before.disk.removeDownload download }.endJob who
      obtain ⟨⟨request, phase⟩, asked⟩ := orderly.jobs who _ working
      have kept : (ended.deliver who outcome).entries = before.entries := by
        unfold deliver
        split <;> rfl
      have claimed {number : Nat} (claims : before.Claims who number) :
          phase.handle? = some number := by
        rcases claims with ⟨again, handle⟩ | ⟨discarding, -⟩
        · obtain rfl := Option.some.inj (asked.symm.trans again)
          exact handle
        · simp [working] at discarding
      have told : ∃ next, (ended.deliver who outcome).call? who = some ⟨request, next⟩ ∧
          next.handle? = phase.handle? ∧ next.awaitsJob = false := by
        rcases (orderly.calls who _ asked).job _ working with ⟨doing, -⟩ | concluded
        · obtain rfl : phase = _ := doing
          exact ⟨_, deliver_call?_replacing asked, rfl, rfl⟩
        · obtain rfl : phase = _ := concluded
          have through : ended.phase? who = some (.finished .abandoned) := phase?_of_call? asked
          rw [deliver_over outcome through]
          exact ⟨_, asked, rfl, rfl⟩
      obtain ⟨next, found, handle, rests⟩ := told
      refine lined.keep asked found kept (fun _ => handle.symm.trans) ?_ (by simp [rests])
      exact fun _ claims => .call found (handle.trans (claimed claims))
  | @discard _ entries _ working =>
      obtain ⟨⟨request, phase⟩, asked⟩ := orderly.jobs who _ working
      have acknowledged : (before.discardStep who entries).call? who = _ :=
        discardStep_call? entries
      -- The phase has no handle, so that only the job can have kept the call in line.
      have loosens (loose : phase.handle? = none) (number : Nat) :
          ¬ (before.discardStep who entries).InLine who number := by
        intro there
        obtain ⟨inside, apart⟩ := inLine_discardStep there
        rcases lined.stays number inside with ⟨again, handle⟩ | ⟨discarding, member⟩
        · obtain rfl := Option.some.inj (asked.symm.trans again)
          simp [loose] at handle
        · obtain rfl := Job.discard.inj (Option.some.inj (working.symm.trans discarding))
          exact apart member
      rcases (orderly.calls who _ asked).job _ working with _ | _ | ⟨⟨result, doing⟩ | concluded, -⟩
      · obtain rfl : phase = _ := doing
        rw [acknowledge_call?_discarding asked] at acknowledged
        exact lined_of acknowledged (by simp [Phase.handle?])
          (fun number there => absurd there (loosens rfl number)) (by simp [Phase.awaitsJob])
      · obtain rfl : phase = _ := concluded
        rw [acknowledge_over (phase?_of_call? asked)] at acknowledged
        exact lined_of (acknowledged.trans asked) (by simp [Phase.handle?])
          (fun number there => absurd there (loosens rfl number)) (by simp [Phase.awaitsJob])
  | advance _ advanced | ask _ advanced => cases advanced
  | finish _ ends => cases ends

theorem Orderly.lined_own (orderly : before.Orderly) (lined : before.Lined who)
    (moved : before.Move event after) (caller : event.caller? = some who) : after.Lined who := by
  have whole := moved
  cases moved with
  | enter new =>
      obtain rfl := Option.some.inj caller
      refine lined_of (call?_enter new) (by simp [Phase.handle?]) ?_ (by simp [Phase.awaitsJob])
      intro number there
      rcases lined.stays number there with ⟨asked, -⟩ | ⟨working, -⟩
      · simp [new] at asked
      · obtain ⟨call, asked⟩ := orderly.jobs _ _ working
        simp [new] at asked
  | @create who printer _ disk asked =>
      obtain rfl := Option.some.inj caller
      let grown : Service := { before with
        disk
        listing := before.listing ++ [(printer, before.nextEntry)]
        entries := before.entries.add before.nextEntry
          { printer, file := ⟨stemOf printer, before.nextEntry⟩ }
        nextEntry := before.nextEntry + 1 }
      have known (other : Nat) : grown.entry? other = _ := Roster.entry_add
      have start : grown.call? who = some ⟨.refresh printer, .starting⟩ := asked
      refine lined_awaitLock start ?_ fun other there => ?_
      · rw [known]
        cases before.entries.entry? before.nextEntry <;> simp
      · -- Nobody is in line for the new entry yet.
        obtain ⟨entry, found, member⟩ := there
        rw [known] at found
        cases old : before.entries.entry? other with
        | none =>
            obtain ⟨rfl, rfl⟩ : other = before.nextEntry ∧ _ = entry := by simpa [old] using found
            simp at member
        | some first =>
            obtain rfl : first = entry := by simpa [old] using found
            have claims := lined.stays other ⟨first, old, member⟩
            exact absurd (orderly.claimed asked rfl claims) (by simp [Phase.handle?])
  | queue asked _ listed =>
      obtain rfl := Option.some.inj caller
      obtain ⟨entry, found, -⟩ := orderly.listed _ _ listed
      refine lined_awaitLock asked ⟨entry, found⟩ fun other there => ?_
      exact absurd (orderly.claimed asked rfl (lined.stays other there)) (by simp [Phase.handle?])
  | strike asked listed =>
      obtain rfl := Option.some.inj caller
      obtain ⟨entry, found, -⟩ := orderly.listed _ _ listed
      refine @lined_awaitLock (before.strike _) _ _ _ asked ⟨entry, found⟩ fun other there => ?_
      exact absurd (orderly.claimed asked rfl (lined.stays other there)) (by simp [Phase.handle?])
  | drain asked =>
      obtain rfl := Option.some.inj caller
      refine lined.keep asked (call?_setPhase_self asked) rfl (by simp [Phase.handle?]) ?_
        fun _ => ⟨_, jobs_addJob (orderly.idle asked rfl)⟩
      intro number claims
      exact absurd (orderly.claimed asked rfl claims) (by simp [Phase.handle?])
  | @restart who number printer _ _ asked =>
      obtain rfl := Option.some.inj caller
      have unlocked : (before.unlock who number).call? who =
          some ⟨.refresh printer, .queued number⟩ := asked
      refine lined.leave asked (call?_setPhase_self unlocked) rfl rfl (fun other there => ?_) rfl
      have left : (before.unlock who number).InLine who other :=
        @inLine_sweep ((before.unlock who number).setPhase who .starting) _ _ there
      obtain ⟨inside, apart⟩ := inLine_unlock.mp left
      exact ⟨inside, fun same => apart ⟨rfl, (Option.some.inj same).symm⟩⟩
  | @forget who number _ _ _ asked =>
      obtain rfl := Option.some.inj caller
      have working : (before.addJob who (.discard [number])).jobs.entry? who = _ :=
        jobs_addJob (orderly.idle asked rfl)
      refine lined.keep asked (call?_setPhase_self asked) rfl (by simp [Phase.handle?]) ?_
        fun _ => ⟨_, working⟩
      intro other claims
      obtain rfl := Option.some.inj (orderly.claimed asked rfl claims)
      exact .job working (List.mem_singleton_self _)
  | take asked =>
      obtain rfl := Option.some.inj caller
      refine lined.keep asked (call?_setPhase_self asked) rfl (fun _ => id) ?_
        fun _ => ⟨_, jobs_addJob (orderly.idle asked rfl)⟩
      intro other claims
      have handle := orderly.claimed asked rfl claims
      exact .call (call?_setPhase_self asked) handle
  | query asked | fetch asked | shutGate asked =>
      obtain rfl := Option.some.inj caller
      exact lined.advance asked (call?_setPhase_self asked) rfl rfl rfl rfl
  | advance asked advanced | ask asked advanced =>
      obtain rfl := Option.some.inj ((advances_caller advanced).symm.trans caller)
      exact lined.advance asked (call?_setPhase_self asked) rfl rfl rfl rfl
  | answer asked received =>
      obtain rfl := Option.some.inj caller
      rw [(received_inv received).1]
      exact lined.advance asked (call?_setPhase_self asked) rfl rfl rfl rfl
  | hear asked received =>
      obtain rfl := Option.some.inj caller
      rw [(receivedAny_inv received).1]
      exact lined.advance asked (call?_setPhase_self asked) rfl rfl rfl rfl
  | fail asked _ fails =>
      obtain rfl := Option.some.inj caller
      exact lined.advance asked (call?_setPhase_self asked) rfl rfl fails.handle.symm rfl
  | @unlist who number _ _ entry _ asked =>
      obtain rfl := Option.some.inj caller
      obtain ⟨listing, same⟩ := strikeEntry_eq before number entry
      rw [same]
      exact lined.advance asked (call?_setPhase_self asked) rfl rfl rfl rfl
  | @settle who number request marker edition _ _ asked =>
      obtain rfl := Option.some.inj caller
      let settled := before.setEntry number fun entry =>
        { entry with marker, current := some edition }
      have found : settled.call? who = some ⟨request, .replaced number marker (.ok edition)⟩ :=
        asked
      refine lined.leave asked (finish_call? found) rfl rfl (fun other there => ?_) finish_jobs
      obtain ⟨inside, apart⟩ := inLine_finish found there
      have same : settled.InLine who other ↔ before.InLine who other := inLine_setEntry fun _ => rfl
      exact ⟨same.mp inside, apart⟩
  | @release who number _ _ _ asked =>
      obtain rfl := Option.some.inj caller
      have idle : (before.unlock who number).jobs.entry? who = none := orderly.idle asked rfl
      refine lined_of (call?_setPhase_self asked) (by simp [Phase.handle?]) ?_
        fun _ => ⟨_, jobs_addJob idle⟩
      intro other there
      have left : (before.unlock who number).InLine who other := there
      obtain ⟨inside, apart⟩ := inLine_unlock.mp left
      obtain rfl := Option.some.inj (orderly.claimed asked rfl (lined.stays other inside))
      exact absurd ⟨rfl, rfl⟩ apart
  | @sealUp who request _ asked =>
      obtain rfl := Option.some.inj caller
      have found : Service.call? { before with pool := before.pool.sealUp } who =
          some ⟨request, .sealing⟩ := asked
      exact lined.leave asked (finish_call? found) rfl rfl (fun _ => inLine_finish found)
        finish_jobs
  | finish asked ends =>
      obtain rfl := Option.some.inj (ends.caller.symm.trans caller)
      exact lined.leave asked (finish_call? asked) rfl rfl (fun _ => inLine_finish asked)
        finish_jobs
  | prepare | place | clean | discard =>
      obtain rfl := Option.some.inj caller
      exact lined.work orderly whole
  | reap | elapse | age | lose | removeDirectory => contradiction

/-- What happens for another call leaves a call its place in line. -/
theorem Course.inLine {licence : Licence} (course : Course licence other before after)
    (apart : who ≠ other) {entry later : Entry} (found : before.entry? number = some entry)
    (known : after.entry? number = some later) : who ∈ later.line ↔ who ∈ entry.line := by
  rcases course.entries number entry found with ⟨same, again, becomes⟩ | dropped
  · obtain rfl := Option.some.inj (known.symm.trans again)
    have kept : who ∈ later.line.filter (· ≠ other) ↔ who ∈ entry.line.filter (· ≠ other) := by
      rw [becomes.line]
    simpa [apart] using kept
  · simp [dropped.missing] at known

theorem Lined.others (lined : before.Lined who) (orderly : before.Orderly)
    (order : after.Orderly) (moved : before.Move event after) (caller : event.caller? = some other)
    (apart : who ≠ other) : after.Lined who := by
  have course := orderly.course moved caller
  have calls := course.calls who apart
  have jobs := course.jobs who apart
  refine ⟨?_, ?_, ?_⟩
  · intro call number asked handle
    obtain ⟨later, known, -⟩ := (order.calls who call asked).handle number handle
    rw [calls] at asked
    obtain ⟨entry, found, member⟩ := lined.waits call number asked handle
    exact ⟨later, known, (course.inLine apart found known).mpr member⟩
  · rintro number ⟨later, known, member⟩
    cases old : before.entry? number with
    | none =>
        have creates := course.fresh number later old known
        have line := congrArg Entry.line (Option.some.inj (known.symm.trans creates.known))
        simp [line, apart] at member
    | some entry =>
        rcases lined.stays number ⟨entry, old, (course.inLine apart old known).mp member⟩ with
          ⟨asked, handle⟩ | ⟨working, inside⟩
        · exact .call (calls.trans asked) handle
        · exact .job (jobs.trans working) inside
  · intro call asked busy
    rw [calls] at asked
    rw [jobs]
    exact lined.works call asked busy

theorem Lined.step (lined : before.Lined who) (orderly : before.Orderly)
    (taken : before.step? event = some after) : after.Lined who := by
  have moved := move_of_step taken
  cases caller : event.caller? with
  | none =>
      cases moved.aside caller with
      | pool | lose | removeDirectory =>
          refine ⟨lined.waits, fun number there => ?_, lined.works⟩
          rcases lined.stays number there with ⟨asked, handle⟩ | ⟨working, member⟩
          · exact .call asked handle
          · exact .job working member
  | some other =>
      by_cases same : who = other
      · exact orderly.lined_own lined moved (by rw [caller, same])
      · exact lined.others orderly (orderly.step taken) moved caller same

theorem start_lined (started : start settings = .ok service) (who : Nat) : service.Lined who := by
  obtain rfl := start_inv started
  refine ⟨?_, ?_, ?_⟩
  · intro call number asked
    contradiction
  · rintro number ⟨entry, found, -⟩
    contradiction
  · intro call asked
    contradiction

end PrintConnector.Service
