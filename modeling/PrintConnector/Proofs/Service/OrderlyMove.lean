import PrintConnector.Proofs.Service.Orderly
import PrintConnector.Proofs.Service.Run

namespace PrintConnector.Service

open Cache (Copy Disk Edition Entry Fault FileName stemOf)

variable {service fresh before middle after : Service} {event : Event} {events : List Event}
  {who number download : Nat} {call : Call} {request : Request} {phase next : Phase}
  {later : Replacement} {result : Result} {entry : Entry} {printer : String} {job : Job}
  {error : Error} {disk : Disk} {target : FileName} {progress : Replacement}
  {settings : Settings}

theorem Orderly.unstaged (orderly : service.Orderly) (idle : service.jobs.entry? who = none) :
    service.disk.staged.entry? who = none := by
  cases there : service.disk.staged.entry? who with
  | none => rfl
  | some bytes =>
      obtain ⟨job, working, -⟩ := orderly.staged who bytes there
      simp [idle] at working

theorem Orderly.not_staged (orderly : service.Orderly)
    (working : service.jobs.entry? who = some job) (empty : ∀ bytes, ¬ job.Stages bytes)
    (bytes : List UInt8) : service.disk.staged.entry? who ≠ some bytes := by
  intro there
  obtain ⟨known, same, stages⟩ := orderly.staged who bytes there
  obtain rfl := Option.some.inj (working.symm.trans same)
  exact empty bytes stages

theorem Orderly.about_listed (orderly : service.Orderly)
    (listed : service.listed? printer = some number) (about : request.printer? = some printer) :
    service.About request number := by
  obtain ⟨entry, found, named⟩ := orderly.listed printer number listed
  refine ⟨entry, found, ?_⟩
  intro other asked
  exact named.trans (Option.some.inj (about.symm.trans asked))

theorem jobs_addJob (idle : service.jobs.entry? who = none) :
    (service.addJob who job).jobs.entry? who = some job := by
  change Roster.entry? (service.jobs.add who job) who = _
  rw [Roster.entry_add, idle, if_pos rfl, Option.none_or]

theorem jobs_setJob {old : Job} (working : service.jobs.entry? who = some old) :
    (service.setJob who job).jobs.entry? who = some job := by
  change Roster.entry? (service.jobs.update who job) who = _
  rw [Roster.entry_update, if_pos rfl, working]
  rfl

theorem jobs_endJob : (service.endJob who).jobs.entry? who = none := by
  change Roster.entry? (service.jobs.remove who) who = _
  rw [Roster.entry_remove, if_pos rfl]

/-- Phases whose next step can strike an entry off the list. -/
def Phase.mayStrike : Phase → Bool
  | .starting | .failed .. => true
  | _ => false

theorem not_strikes (asked : service.call? who = some ⟨request, phase⟩)
    (harmless : phase.mayStrike = false) : ¬ service.Strikes who number := by
  rintro (⟨again, -⟩ | again | again) <;>
    obtain ⟨-, rfl⟩ := Call.mk.inj (Option.some.inj (asked.symm.trans again)) <;>
    simp [Phase.mayStrike] at harmless

section Steps

variable (orderly : before.Orderly)
  (course : Course (licenceOf before after who) who before after)

include orderly course

/-- A call without a job comes to another phase. -/
theorem Orderly.turn (asked : before.call? who = some ⟨request, phase⟩)
    (rests : phase.works = false) (found : after.call? who = some ⟨request, next⟩)
    (fits : after.Fits who ⟨request, next⟩) (staged : after.disk.staged = before.disk.staged)
    (struck : ∀ printer number, before.listed? printer = some number →
      before.Strikes who number → after.Refers number)
    (handle : ∀ number, phase.handle? = some number → after.Refers number) : after.Orderly := by
  have idle := orderly.idle asked rests
  refine orderly.of_course course found fits ?_ ?_
  · intro bytes there
    simp [staged, orderly.unstaged idle] at there
  · intro number entry refers _
    refine course.refers refers (struck · number) ?_ ?_
    · intro call known taken
      obtain rfl := Option.some.inj (asked.symm.trans known)
      exact handle number taken
    · intro entries working _
      simp [idle] at working

/-- The same, where the entry that the call has hold of stays the same. -/
theorem Orderly.move (asked : before.call? who = some ⟨request, phase⟩)
    (rests : phase.works = false) (harmless : phase.mayStrike = false)
    (found : after.call? who = some ⟨request, next⟩) (fits : after.Fits who ⟨request, next⟩)
    (staged : after.disk.staged = before.disk.staged)
    (handle : next.handle? = phase.handle?) : after.Orderly := by
  refine orderly.turn course asked rests found fits staged ?_ ?_
  · intro _ number _ strikes
    exact absurd strikes (not_strikes asked harmless)
  · intro number taken
    exact .held found (handle.trans taken)

theorem Orderly.awaitLock (asked : before.call? who = some ⟨request, .starting⟩)
    (named : request.printer? = some printer) (about : after.About request number)
    (found : after.call? who = some ⟨request, .queued number⟩)
    (jobs : after.jobs = before.jobs) (staged : after.disk.staged = before.disk.staged)
    (struck : ∀ other, before.Strikes who other → other = number) : after.Orderly := by
  have idle : after.jobs.entry? who = none := by
    rw [jobs]
    exact orderly.idle asked rfl
  refine orderly.turn course asked rfl found ?_ staged ?_ ?_
  · refine ⟨.queued named, ?_, ?_, ?_, ?_, ?_⟩
    · intro other handle
      obtain rfl := Option.some.inj handle
      exact about
    · intro other grip
      contradiction
    · rintro other error entry (doing | doing) <;> contradiction
    · intro other error doing
      contradiction
    · intro job working
      simp [idle] at working
  · intro _ other _ strikes
    rw [struck other strikes]
    exact .held found rfl
  · intro other handle
    contradiction

theorem Orderly.fetch {exchange later : Exchange (PpdReply Nat)}
    (asked : before.call? who = some ⟨request, .fetching number exchange⟩)
    (found : after.call? who = some ⟨request, .fetching number later⟩)
    (entries : after.entries = before.entries) (jobs : after.jobs = before.jobs)
    (staged : after.disk.staged = before.disk.staged) : after.Orderly := by
  obtain ⟨printer, asks, entry, known, held, named⟩ := (orderly.calls who _ asked).grip number rfl
  have present : after.entry? number = some entry := by
    rw [ entry?, entries]
    exact known
  refine orderly.move course asked rfl rfl found ?_ staged rfl
  refine .gripping asks ⟨entry, present, held, named⟩ rfl (by simp) (by simp) ?_
  intro job working
  simp [jobs, orderly.idle asked rfl] at working

/-- A call goes on, and what nothing refers to afterwards is dropped. -/
theorem Orderly.swept (same : after = middle.sweep) (keyed : middle.Keyed)
    (found : middle.call? who = some call) (fits : after.Fits who call)
    (staged : ∀ bytes, middle.disk.staged.entry? who = some bytes →
      ∃ job, middle.jobs.entry? who = some job ∧ job.Stages bytes) : after.Orderly := by
  subst same
  refine orderly.of_course course found fits ?_ ?_
  · rw [sweep_disk]
    exact staged
  · intro number entry _ known
    exact keyed.referenced_sweep known

theorem Orderly.finish (same : after = middle.finish who result) (keyed : middle.Keyed)
    (asked : middle.call? who = some ⟨request, phase⟩) (jobs : middle.jobs = before.jobs)
    (staged : middle.disk.staged = before.disk.staged)
    (serves : ∀ job, before.jobs.entry? who = some job →
      after.Serves ⟨request, .finished result⟩ job) : after.Orderly := by
  obtain ⟨last, frame, swept, lastJobs, disk, concluded⟩ := finish_frame middle who result
  rw [swept] at same
  have order : Frame (licenceOf before after who) who middle last := frame _
  refine orderly.swept course same (order.keyed keyed) (concluded _ asked) ?_ ?_
  · apply Fits.free .finished rfl
    intro job working
    subst same
    change last.jobs.entry? who = some job at working
    rw [lastJobs, jobs] at working
    exact serves job working
  · rw [disk, lastJobs, staged, jobs]
    exact orderly.staged who

end Steps

theorem Orderly.holds (orderly : service.Orderly)
    (asked : service.call? who = some ⟨request, phase⟩)
    (grip : phase.grip? = some number) :
    ∃ printer, request = .refresh printer ∧ service.Holds who number printer :=
  (orderly.calls who _ asked).grip number grip

theorem received_inv {reply : PpdReply (List UInt8)} {taken : PpdReply Nat}
    (received : service.receive reply = (after, taken)) :
    after = { service with disk := after.disk } ∧ after.disk.staged = service.disk.staged := by
  cases reply <;> obtain ⟨rfl, -⟩ := Prod.mk.inj received <;> exact ⟨rfl, rfl⟩

theorem receivedAny_inv {reply : Reply (List UInt8)} {taken : Reply Nat}
    (received : service.receiveAny reply = (after, taken)) :
    after = { service with disk := after.disk } ∧ after.disk.staged = service.disk.staged := by
  cases reply with
  | ppd reply =>
      obtain ⟨rfl, -⟩ := Prod.mk.inj received
      exact received_inv rfl
  | printers _ | attributes _ =>
      obtain ⟨rfl, -⟩ := Prod.mk.inj received
      exact ⟨rfl, rfl⟩

/-- What a job leaves behind of a call that has ended. -/
theorem Serves.finish {state : Service} (serves : before.Serves ⟨request, phase⟩ job)
    (retains : Retains before after)
    (ends : Ends state who event request phase result)
    (refers : ∀ entries number, job = .discard entries → number ∈ entries → after.Refers number) :
    after.Serves ⟨request, .finished result⟩ job := by
  rcases serves with ⟨doing, -⟩ | concluded | ⟨⟨_, doing⟩ | concluded, about⟩
  · change phase = _ at doing
    subst doing
    cases ends with
    | failed _ fails => cases fails
    | abandoned => exact .outlives rfl
  · change phase = _ at concluded
    subst concluded
    cases ends with
    | failed _ fails => cases fails
    | abandoned loose => simp [Phase.isLoose] at loose
  · change phase = _ at doing
    subst doing
    cases ends with
    | failed _ fails => cases fails
    | abandoned =>
        refine .discards (.inr rfl) fun number member => ?_
        exact (about number member).transport retains (refers _ _ rfl member)
  · change phase = _ at concluded
    subst concluded
    cases ends with
    | failed _ fails => cases fails
    | abandoned loose => simp [Phase.isLoose] at loose

theorem Serves.replacement (serves : before.Serves call (.replace download target progress)) :
    after.Serves call (.replace download target later) := by
  cases serves with
  | replaces doing asks => exact .replaces doing asks
  | outlives concluded => exact .outlives concluded

theorem Orderly.setJob (orderly : before.Orderly)
    (course : Course (licenceOf before after who) who before after)
    (same : after = { before with disk }.setJob who (.replace download target later))
    (working : before.jobs.entry? who = some (.replace download target progress))
    (staged : ∀ bytes, disk.staged.entry? who = some bytes →
      (Job.replace download target later).Stages bytes) : after.Orderly := by
  subst same
  obtain ⟨call, found⟩ := orderly.jobs who _ working
  have fits := orderly.calls who call found
  have now : ({ before with disk }.setJob who (.replace download target later)).jobs.entry? who =
      some (.replace download target later) := jobs_setJob working
  refine orderly.of_course course found ?_ ?_ ?_
  · refine ⟨fits.suits, fits.handle, fits.grip, fits.empty, fits.struck, ?_⟩
    intro job known
    obtain rfl := Option.some.inj (now.symm.trans known)
    exact (fits.job _ working).replacement
  · intro bytes there
    exact ⟨_, now, staged bytes there⟩
  · intro number entry refers _
    refine course.refers refers ?_ ?_ ?_
    · intro printer listed _
      exact .listed listed
    · intro same known handle
      exact .held known handle
    · intro entries discarding
      simp [working] at discarding

theorem Orderly.prepared (orderly : before.Orderly)
    (working : before.jobs.entry? who = some (.replace download target progress))
    (prepared : Prepares before.disk who download target progress disk later) :
    ∀ bytes, disk.staged.entry? who = some bytes →
      (Job.replace download target later).Stages bytes := by
  intro bytes there
  have stages {bytes : List UInt8} (there : before.disk.staged.entry? who = some bytes) :
      (Job.replace download target progress).Stages bytes := by
    obtain ⟨job, known, stages⟩ := orderly.staged who bytes there
    obtain rfl := Option.some.inj (working.symm.trans known)
    exact stages
  cases prepared with
  | read | unread | unstaged => exact stages there
  | stage staged =>
      obtain rfl := Disk.stage_inv staged
      cases old : before.disk.staged.entry? who with
      | some bytes => exact (stages old).elim
      | none =>
          simp only [Roster.entry_add, old] at there
          exact (Option.some.inj there).symm
  | @append fault rest copy after appended =>
      obtain ⟨-, contents, -⟩ := Disk.append_inv appended
      obtain ⟨front, old, rfl⟩ := contents bytes there
      obtain rfl : front = copy.contents := stages old
      split
      · rename_i empty
        rw [List.isEmpty_iff.mp empty, List.take_nil, List.append_nil]
        rfl
      · rfl
  | unwritten | unplaced => simp [Disk.staged_unstage] at there

theorem deliver_replacing {marker : Option String} (outcome : Except Error Edition)
    (doing : service.phase? who = some (.replacing number marker)) :
    service.deliver who outcome = service.setPhase who (.replaced number marker outcome) := by
  rw [deliver, doing]

theorem deliver_over (outcome : Except Error Edition)
    (concluded : service.phase? who = some (.finished result)) :
    service.deliver who outcome = service := by
  rw [deliver, concluded]

theorem acknowledge_discarding (doing : service.phase? who = some (.discarding result)) :
    service.acknowledge who = service.setPhase who (.discarded result) := by
  rw [acknowledge, doing]

theorem acknowledge_over (concluded : service.phase? who = some (.finished result)) :
    service.acknowledge who = service := by
  rw [acknowledge, concluded]

theorem Orderly.clean {ended : Service} {outcome : Except Error Edition} (orderly : before.Orderly)
    (course : Course (licenceOf before (ended.deliver who outcome) who) who before
      (ended.deliver who outcome))
    (same : ended = { before with disk := before.disk.removeDownload download }.endJob who)
    (working : before.jobs.entry? who = some (.replace download target (.cleaning outcome))) :
    (ended.deliver who outcome).Orderly := by
  obtain ⟨⟨request, phase⟩, found⟩ := orderly.jobs who _ working
  have unstaged := orderly.not_staged working fun _ => id
  have known : ended.call? who = some ⟨request, phase⟩ := by rw [same]; exact found
  have there : ended.disk.staged = before.disk.staged := by rw [same]; rfl
  have idle : ended.jobs.entry? who = none := by rw [same]; exact jobs_endJob
  have keeps {next : Phase} (later : (ended.deliver who outcome).call? who = some ⟨request, next⟩)
      (harmless : phase.mayStrike = false) (handle : next.handle? = phase.handle?) :
      ∀ number entry, before.Refers number →
        Service.entry? (ended.deliver who outcome) number = some entry →
          (ended.deliver who outcome).Refers number := by
    intro other entry refers _
    refine course.refers refers ?_ ?_ ?_
    · intro _ _ strikes
      exact absurd strikes (not_strikes found harmless)
    · intro call again taken
      obtain rfl := Option.some.inj (found.symm.trans again)
      exact .held later (handle.trans taken)
    · intro entries discarding
      simp [working] at discarding
  rcases (orderly.calls who _ found).job _ working with
    @⟨number, _, marker, _, _, now, -⟩ | concluded
  · change phase = _ at now
    subst now
    obtain ⟨printer, asks, entry, present, held, named⟩ := orderly.holds found rfl
    have delivered := deliver_replacing outcome (phase?_of_call? known)
    have later : (ended.deliver who outcome).call? who =
        some ⟨request, .replaced number marker outcome⟩ := by
      rw [delivered]
      exact call?_setPhase_self known
    refine orderly.of_course course later ?_ ?_ (keeps later rfl rfl)
    · rw [delivered, same]
      refine .gripping asks ⟨entry, present, held, named⟩ rfl (by simp) (by simp) ?_
      intro job working
      rw [same] at idle
      exact absurd (idle.symm.trans working) (by simp)
    · intro bytes staged
      rw [delivered] at staged
      exact absurd (there ▸ staged) (unstaged bytes)
  · change phase = _ at concluded
    subst concluded
    have delivered := deliver_over outcome (phase?_of_call? known)
    have later : (ended.deliver who outcome).call? who = some ⟨request, .finished .abandoned⟩ := by
      rw [delivered]
      exact known
    refine orderly.of_course course later (.freeIdle .finished rfl ?_) ?_ (keeps later rfl rfl)
    · rw [delivered]
      exact idle
    · intro bytes staged
      rw [delivered] at staged
      exact absurd (there ▸ staged) (unstaged bytes)

theorem unlockAll_eq (service : Service) (who : Nat) (numbers : List Nat) :
    ∃ entries, numbers.foldl (fun service number => service.unlock who number) service =
      { service with entries } := by
  induction numbers generalizing service with
  | nil => exact ⟨_, rfl⟩
  | cons number numbers ih =>
      obtain ⟨entries, same⟩ := ih (service.unlock who number)
      exact ⟨entries, same⟩

theorem Orderly.discard {entries : List Nat} (orderly : before.Orderly)
    (course : Course (licenceOf before after who) who before after)
    (same : after = before.discardStep who entries)
    (working : before.jobs.entry? who = some (.discard entries)) : after.Orderly := by
  obtain ⟨⟨request, phase⟩, found⟩ := orderly.jobs who _ working
  have unstaged := orderly.not_staged working fun _ => id
  obtain ⟨loosened, unlocked⟩ := unlockAll_eq before who entries
  let ended := { before with entries := loosened }.endJob who
  rw [discardStep, unlocked] at same
  change after = (ended.acknowledge who).sweep at same
  have order : Frame (licenceOf before before who) who before (ended.acknowledge who) := by
    have first : Frame (licenceOf before before who) who before
        { before with entries := loosened } := by
      rw [← unlocked]
      exact Frame.unlockAll entries
    exact first.trans (Frame.endJob.trans .acknowledge)
  have doing : ended.phase? who = some phase := phase?_of_call? found
  obtain ⟨next, later, jobs, staged, loose, suits⟩ : ∃ next,
      (ended.acknowledge who).call? who = some ⟨request, next⟩ ∧
      (ended.acknowledge who).jobs = ended.jobs ∧
      (ended.acknowledge who).disk.staged = before.disk.staged ∧ next.handle? = none ∧
      Suits request next := by
    have suits := (orderly.calls who _ found).suits
    rcases (orderly.calls who _ found).job _ working with _ | _ | ⟨⟨result, now⟩ | concluded, -⟩
    · change phase = _ at now
      subst now
      rw [acknowledge_discarding doing]
      exact ⟨.discarded result, call?_setPhase_self found, rfl, rfl, rfl, suits.discarded_of⟩
    · change phase = _ at concluded
      subst concluded
      rw [acknowledge_over doing]
      exact ⟨_, found, rfl, rfl, rfl, suits⟩
  refine orderly.swept course same (order.keyed orderly.keyed) later ?_ ?_
  · apply Fits.freeIdle suits loose
    rw [same]
    change (ended.acknowledge who).jobs.entry? who = none
    rw [jobs]
    exact jobs_endJob
  · intro bytes there
    rw [staged] at there
    exact absurd there (unstaged bytes)

theorem strikeEntry_eq (service : Service) (number : Nat) (entry : Entry) :
    ∃ listing, service.strikeEntry number entry = { service with listing } := by
  unfold strikeEntry
  split <;> exact ⟨_, rfl⟩

theorem Orderly.not_listed_strikeEntry (orderly : service.Orderly)
    (known : service.entry? number = some entry) (printer : String) :
    (service.strikeEntry number entry).listed? printer ≠ some number := by
  intro listed
  have only {other : String} (there : service.listed? other = some number) :
      entry.printer = other := by
    obtain ⟨same, again, named⟩ := orderly.listed other number there
    obtain rfl := Option.some.inj (known.symm.trans again)
    exact named
  unfold strikeEntry at listed
  split at listed
  · rw [listed?_strike] at listed
    split at listed
    · contradiction
    · rename_i different
      exact different (only listed).symm
  · rename_i different
    rw [only listed] at different
    exact different listed

theorem Orderly.moved (orderly : before.Orderly) (moved : before.Move event after)
    (caller : event.caller? = some who) : after.Orderly := by
  have course := orderly.course moved caller
  cases moved with
  | @enter who request new =>
      obtain rfl := Option.some.inj caller
      have idle : before.jobs.entry? who = none := by
        cases working : before.jobs.entry? who with
        | none => rfl
        | some job =>
            obtain ⟨call, found⟩ := orderly.jobs who job working
            simp [new] at found
      refine orderly.of_course course (call?_enter new) (.freeIdle .starting rfl idle)
        (orderly.staged who) ?_
      intro number entry refers _
      refine course.refers refers ?_ ?_ ?_
      · rintro _ _ (⟨again, -⟩ | again | again) <;> simp [new] at again
      · intro call known
        simp [new] at known
      · intro entries working
        simp [idle] at working
  | @create who printer fault disk asked unlisted created =>
      obtain rfl := Option.some.inj caller
      have creates := (course.listed printer before.nextEntry
        ((listed?_append printer).trans (by simp [unlisted]))).resolve_left (by simp [unlisted])
      refine orderly.awaitLock course asked rfl ⟨_, creates.known, ?_⟩ creates.queued rfl ?_ ?_
      · intro other about
        exact Option.some.inj about
      · change disk.staged = _
        rw [Disk.create_inv created]
      · rintro other (⟨again, -⟩ | again | again) <;> simp [asked] at again
  | @queue who number request printer fault asked about listed =>
      obtain rfl := Option.some.inj caller
      have found : (before.awaitLock who number).call? who = some ⟨request, .queued number⟩ :=
        call?_setPhase_self asked
      have known : request.printer? = some printer := by rcases about with rfl | rfl <;> rfl
      have there := (orderly.about_listed listed known).transport course.retains (.held found rfl)
      refine orderly.awaitLock course asked known there found rfl rfl ?_
      rintro other (⟨again, -⟩ | again | again) <;> rcases about with rfl | rfl <;>
        simp [asked] at again
  | @strike who number printer fault asked listed =>
      obtain rfl := Option.some.inj caller
      have found : ((before.strike printer).awaitLock who number).call? who =
          some ⟨.invalidate printer, .queued number⟩ := call?_setPhase_self asked
      have about : before.About (.invalidate printer) number := orderly.about_listed listed rfl
      have there := about.transport course.retains (.held found rfl)
      refine orderly.awaitLock course asked rfl there found rfl rfl ?_
      rintro other (⟨again, listed'⟩ | again | again)
      · simp only [asked, Option.some.injEq, Call.mk.injEq, Request.invalidate.injEq] at again
        obtain ⟨rfl, -⟩ := again
        exact Option.some.inj (listed'.symm.trans listed)
      · simp [asked] at again
      · simp [asked] at again
  | @drain who fault asked =>
      obtain rfl := Option.some.inj caller
      let after := ({ before with listing := [] }.addJob who
        (.discard (before.listing.map Prod.snd))).setPhase who (.discarding .shutDown)
      have found : after.call? who = some ⟨.shutdown, .discarding .shutDown⟩ :=
        call?_setPhase_self asked
      have working : after.jobs.entry? who = some (.discard (before.listing.map Prod.snd)) :=
        jobs_addJob (orderly.idle asked rfl)
      have member {printer : String} {number : Nat} (listed : before.listed? printer = some number) :
          number ∈ before.listing.map Prod.snd := List.mem_map_of_mem (mem_of_lookup listed)
      refine orderly.turn course asked rfl found (.free (.discarding .drained) rfl ?_) rfl ?_ ?_
      · intro job known
        obtain rfl := Option.some.inj (working.symm.trans known)
        refine .discards (.inl ⟨_, rfl⟩) fun number inside => ?_
        obtain ⟨⟨printer, number⟩, listed, rfl⟩ := List.mem_map.mp inside
        obtain ⟨entry, known, -⟩ :=
          orderly.listed printer number (lookup_of_mem orderly.keyed.listing listed)
        exact ⟨entry, known, by simp [Request.printer?]⟩
      · intro printer number listed _
        exact .discarded working (member listed)
      · intro number handle
        contradiction
  | query asked =>
      obtain rfl := Option.some.inj caller
      have idle := orderly.idle asked rfl
      refine orderly.turn course asked rfl (call?_setPhase_self asked) (.freeIdle .asking rfl idle)
        rfl ?_ ?_
      · rintro _ other _ (⟨again, -⟩ | again | again) <;> simp [asked] at again
      · intro other handle
        contradiction
  | @fetch who number printer entry fault asked known held listed =>
      obtain rfl := Option.some.inj caller
      obtain ⟨same, again, named⟩ := orderly.listed printer number listed
      obtain rfl := Option.some.inj (known.symm.trans again)
      refine orderly.move course asked rfl rfl (call?_setPhase_self asked) ?_ rfl rfl
      refine .gripping rfl ⟨entry, known, held, named⟩ rfl (by simp) (by simp) ?_
      intro job working
      change before.jobs.entry? who = some job at working
      simp [orderly.idle asked rfl] at working
  | @restart who number printer entry fault asked known held unlisted =>
      obtain rfl := Option.some.inj caller
      have idle := orderly.idle asked rfl
      have order : Frame (licenceOf before before who) who before
          ((before.unlock who number).setPhase who .starting) := Frame.unlock.trans .setPhase
      have found : ((before.unlock who number).setPhase who .starting).call? who =
          some ⟨.refresh printer, .starting⟩ := call?_setPhase_self asked
      exact orderly.swept course rfl (order.keyed orderly.keyed) found (.freeIdle .starting rfl idle)
        (orderly.staged who)
  | @forget who number printer entry fault asked known held =>
      obtain rfl := Option.some.inj caller
      let after := (before.addJob who (.discard [number])).setPhase who
        (.discarding (.invalidated true))
      have found : after.call? who = some ⟨.invalidate printer, .discarding (.invalidated true)⟩ :=
        call?_setPhase_self asked
      have working : after.jobs.entry? who = some (.discard [number]) :=
        jobs_addJob (orderly.idle asked rfl)
      refine orderly.turn course asked rfl found (.free (.discarding .forgotten) rfl ?_) rfl ?_ ?_
      · intro job known
        obtain rfl := Option.some.inj (working.symm.trans known)
        refine .discards (.inl ⟨_, rfl⟩) fun other inside => ?_
        obtain rfl := List.mem_singleton.mp inside
        exact (orderly.calls who _ asked).handle other rfl
      · intro _ other _ strikes
        exact absurd strikes (not_strikes asked rfl)
      · intro other handle
        obtain rfl := Option.some.inj handle
        exact .discarded working (List.mem_singleton.mpr rfl)
  | @take who number download request exchange marker entry fault asked concluded known =>
      obtain rfl := Option.some.inj caller
      let after := (before.addJob who (.replace download entry.file .opening)).setPhase who
        (.replacing number marker)
      have found : after.call? who = some ⟨request, .replacing number marker⟩ :=
        call?_setPhase_self asked
      have working : after.jobs.entry? who = some (.replace download entry.file .opening) :=
        jobs_addJob (orderly.idle asked rfl)
      obtain ⟨printer, asks, holds⟩ := orderly.holds asked rfl
      refine orderly.move course asked rfl rfl found ?_ rfl rfl
      refine .gripping asks holds rfl (by simp) (by simp) ?_
      intro job known'
      obtain rfl := Option.some.inj (working.symm.trans known')
      rw [(orderly.named number entry known).1]
      obtain ⟨same, again, -, named⟩ := holds
      obtain rfl := Option.some.inj (known.symm.trans again)
      rw [named]
      exact .replaces rfl asks
  | @advance who number request exchange next event pool asked advanced =>
      obtain rfl := Option.some.inj ((advances_caller advanced).symm.trans caller)
      exact orderly.fetch course asked (call?_setPhase_self asked) rfl rfl rfl
  | @ask who request query exchange next event pool asked advanced =>
      obtain rfl := Option.some.inj ((advances_caller advanced).symm.trans caller)
      have idle := orderly.idle asked rfl
      have suits : Suits request (.asking query next) := (orderly.calls who _ asked).suits.ask
      exact orderly.move course asked rfl rfl (call?_setPhase_self asked) (.freeIdle suits rfl idle)
        rfl rfl
  | @answer who number request exchange next reply between taken pool asked received answered =>
      obtain rfl := Option.some.inj caller
      obtain ⟨same, staged⟩ := received_inv received
      rw [same] at course ⊢
      exact orderly.fetch course asked (call?_setPhase_self asked) rfl rfl staged
  | @hear who request query exchange next reply between taken pool asked received answered =>
      obtain rfl := Option.some.inj caller
      obtain ⟨same, staged⟩ := receivedAny_inv received
      rw [same] at course ⊢
      have idle := orderly.idle asked rfl
      have suits : Suits request (.asking query next) := (orderly.calls who _ asked).suits.ask
      exact orderly.move course asked rfl rfl (call?_setPhase_self asked) (.freeIdle suits rfl idle)
        staged rfl
  | @fail who number request phase entry error fault asked known fails empty =>
      obtain rfl := Option.some.inj caller
      have rests : phase.works = false := by cases fails <;> rfl
      have harmless : phase.mayStrike = false := by cases fails <;> rfl
      obtain ⟨printer, asks, holds⟩ := orderly.holds asked fails.grip
      refine orderly.move course asked rests harmless (call?_setPhase_self asked) ?_ rfl
        fails.handle.symm
      refine .gripping asks holds rfl ?_ (by simp) ?_
      · intro _ _ same again
        obtain rfl := Option.some.inj (known.symm.trans again)
        exact empty
      · intro job working
        change before.jobs.entry? who = some job at working
        simp [orderly.idle asked rests] at working
  | @settle who number request marker edition entry fault asked known =>
      obtain rfl := Option.some.inj caller
      have settled : before.Settles who number marker edition := phase?_of_call? asked
      have order : Frame (licenceOf before before who) who before (Service.setEntry before number
          fun entry => { entry with marker, current := some edition }) := .settle settled
      refine orderly.finish course rfl (order.keyed orderly.keyed) asked rfl rfl ?_
      intro job working
      simp [orderly.idle asked rfl] at working
  | @unlist who number request error entry fault asked known =>
      obtain rfl := Option.some.inj caller
      obtain ⟨printer, asks, holds⟩ := orderly.holds asked rfl
      have gone := orderly.not_listed_strikeEntry known
      obtain ⟨listing, same⟩ := strikeEntry_eq before number entry
      rw [same] at course gone ⊢
      have found : ({ before with listing }.setPhase who (.unlisted number error)).call? who =
          some ⟨request, .unlisted number error⟩ := call?_setPhase_self asked
      refine orderly.turn course asked rfl found ?_ rfl ?_ ?_
      · refine .gripping asks holds rfl ?_ (fun _ _ => gone) ?_
        · intro _ _ again
          exact (orderly.calls who _ asked).empty number error _ (.inl rfl)
        · intro job working
          change before.jobs.entry? who = some job at working
          simp [orderly.idle asked rfl] at working
      · rintro _ other _ (⟨again, -⟩ | again | again)
        · simp [asked] at again
        · simp [asked] at again
        · simp only [asked, Option.some.injEq, Call.mk.injEq, Phase.failed.injEq] at again
          obtain ⟨-, rfl, -⟩ := again
          exact .held found rfl
      · intro other handle
        exact .held found handle
  | @release who number request error fault asked =>
      obtain rfl := Option.some.inj caller
      let after := ((before.unlock who number).addJob who (.discard [number])).setPhase who
        (.discarding (.refreshed (.error error)))
      have found : after.call? who =
          some ⟨request, .discarding (.refreshed (.error error))⟩ := call?_setPhase_self asked
      have working : after.jobs.entry? who = some (.discard [number]) :=
        jobs_addJob (orderly.idle asked rfl)
      have refers : after.Refers number := .discarded working (List.mem_singleton.mpr rfl)
      obtain ⟨printer, rfl, -⟩ := orderly.holds asked rfl
      refine orderly.turn course asked rfl found (.free (.discarding .failed) rfl ?_) rfl ?_ ?_
      · intro job known
        obtain rfl := Option.some.inj (working.symm.trans known)
        refine .discards (.inl ⟨_, rfl⟩) fun other inside => ?_
        obtain rfl := List.mem_singleton.mp inside
        exact ((orderly.calls who _ asked).handle other rfl).transport course.retains refers
      · intro _ other _ strikes
        exact absurd strikes (not_strikes asked rfl)
      · intro other handle
        obtain rfl := Option.some.inj handle
        exact refers
  | @shutGate who request fault asked =>
      obtain rfl := Option.some.inj caller
      have idle := orderly.idle asked rfl
      have suits : Suits request .sealing := (orderly.calls who _ asked).suits.sealing_of
      exact orderly.move course asked rfl rfl (call?_setPhase_self asked) (.freeIdle suits rfl idle)
        rfl rfl
  | @sealUp who request fault asked =>
      obtain rfl := Option.some.inj caller
      have order : Frame (licenceOf before before who) who before
          { before with pool := before.pool.sealUp } := .withPool
      refine orderly.finish course rfl (order.keyed orderly.keyed) asked rfl rfl ?_
      intro job working
      simp [orderly.idle asked rfl] at working
  | @finish who event request phase result asked ends =>
      obtain rfl := Option.some.inj (ends.caller.symm.trans caller)
      refine orderly.finish course rfl orderly.keyed asked rfl rfl ?_
      intro job working
      refine ((orderly.calls who _ asked).job job working).finish course.retains ends ?_
      rintro entries number rfl member
      have kept : (before.finish who result).jobs.entry? who = some (.discard entries) := by
        rw [finish_jobs]
        exact working
      exact .discarded kept member
  | @prepare who download target progress next disk fault working prepared =>
      obtain rfl := Option.some.inj caller
      exact orderly.setJob course rfl working (orderly.prepared working prepared)
  | @place who download target copy disk fault working replaced =>
      obtain rfl := Option.some.inj caller
      refine orderly.setJob course rfl working ?_
      intro bytes there
      obtain ⟨_, -, gone, -⟩ := Disk.content?_replace replaced
      simp [gone] at there
  | @clean who download target outcome fault working =>
      obtain rfl := Option.some.inj caller
      exact orderly.clean course rfl working
  | @discard who entries fault working =>
      obtain rfl := Option.some.inj caller
      exact orderly.discard course rfl working
  | reap | elapse | age | lose | removeDirectory => contradiction

/-- Nothing changes but the pool and what is on disk. -/
theorem Orderly.aside (orderly : before.Orderly) (calls : after.calls = before.calls)
    (jobs : after.jobs = before.jobs) (listing : after.listing = before.listing)
    (entries : after.entries = before.entries) (nextEntry : after.nextEntry = before.nextEntry)
    (counted : after.disk.IsCounted)
    (staged : ∀ who bytes, after.disk.staged.entry? who = some bytes →
      before.disk.staged.entry? who = some bytes) : after.Orderly := by
  obtain ⟨pool, disk, listing', entries', nextEntry', calls', jobs'⟩ := after
  subst calls jobs listing entries nextEntry
  have refers {number : Nat} (refers : before.Refers number) :
      Refers { before with pool, disk } number := by
    rcases refers with listed | ⟨found, handle⟩ | ⟨working, member⟩
    · exact .listed listed
    · exact .held found handle
    · exact .discarded working member
  refine
    { keyed := ⟨orderly.keyed.calls, orderly.keyed.jobs, orderly.keyed.entries,
        orderly.keyed.listing⟩
      named := orderly.named, counted, listed := orderly.listed, referenced := ?_, calls := ?_
      jobs := orderly.jobs, staged := ?_ }
  · intro number entry known
    exact refers (orderly.referenced number entry known)
  · intro who call found
    refine (orderly.calls who call found).transport found rfl (fun _ _ listed => .inl listed) ?_ ?_
    · intro number entry known _
      exact ⟨entry, known, rfl⟩
    · intro number entry later known held again
      obtain rfl := Option.some.inj (known.symm.trans again)
      exact ⟨held, rfl⟩
  · intro who bytes there
    exact orderly.staged who bytes (staged who bytes there)

/-- Whatever happens keeps the service in order. -/
theorem Orderly.step (orderly : before.Orderly) (taken : before.step? event = some after) :
    after.Orderly := by
  have moved := move_of_step taken
  cases caller : event.caller? with
  | some who => exact orderly.moved moved caller
  | none =>
      cases moved.aside caller with
      | pool => exact orderly.aside rfl rfl rfl rfl rfl orderly.counted fun _ _ => id
      | lose =>
          exact orderly.aside rfl rfl rfl rfl rfl (orderly.counted.removeDownload _) fun _ _ => id
      | removeDirectory =>
          refine orderly.aside rfl rfl rfl rfl rfl orderly.counted ?_
          intro who bytes there
          simp [Disk.removeDirectory] at there

theorem Orderly.run (orderly : before.Orderly) (ran : before.run? events = some after) :
    after.Orderly := by
  induction events generalizing before with
  | nil =>
      obtain rfl := Option.some.inj ran
      exact orderly
  | cons event events ih =>
      rw [run?, List.foldlM_cons, Option.bind_eq_bind, Option.bind_eq_some_iff] at ran
      obtain ⟨next, taken, rest⟩ := ran
      exact ih (orderly.step taken) rest

theorem start_orderly (started : start settings = .ok service) : service.Orderly := by
  obtain rfl := start_inv started
  refine
    { keyed := ⟨List.nodup_nil, List.nodup_nil, List.nodup_nil, List.nodup_nil⟩
      named := ?_, counted := fun _ _ => rfl, listed := ?_, referenced := ?_, calls := ?_
      jobs := ?_, staged := ?_ }
  · intro number entry found
    contradiction
  · intro printer number listed
    contradiction
  · intro number entry found
    contradiction
  · intro who call found
    contradiction
  · intro who job working
    contradiction
  · intro who bytes there
    contradiction

end PrintConnector.Service
