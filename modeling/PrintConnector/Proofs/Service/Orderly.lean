import PrintConnector.Proofs.Pool.Borrower
import PrintConnector.Proofs.Service.Course

namespace PrintConnector.Service

open Cache (Disk Edition Entry Fault FileName stemOf)

variable {service before after : Service} {event : Event} {who other number : Nat} {call : Call}
  {request : Request} {phase : Phase} {result : Result} {entry : Entry} {printer : String}
  {job : Job} {licence : Licence}

/-- The call that an event is about. -/
def Event.caller? : Event → Option Nat
  | .call who _ | .go who _ | .connected who _ | .reconnected who _ | .answered who _
  | .abandon who | .work who _ => some who
  | .reap _ | .lose _ | .removeDirectory | .elapse _ | .age _ => none

def Request.printer? : Request → Option String
  | .refresh printer | .cached printer | .invalidate printer => some printer
  | .shutdown | .ask _ => none

/-- An entry is there, and it is of the printer that is asked about, if one is. -/
def About (service : Service) (request : Request) (number : Nat) : Prop :=
  ∃ entry, service.entry? number = some entry ∧
    ∀ printer, request.printer? = some printer → entry.printer = printer

inductive Serves (service : Service) (call : Call) : Job → Prop where
  | replaces {number download : Nat} {marker : Option String} {printer : String}
      {progress : Replacement} (doing : call.phase = .replacing number marker)
      (asks : call.request = .refresh printer) :
      Serves service call (.replace download ⟨stemOf printer, number⟩ progress)
  | outlives {download : Nat} {target : FileName} {progress : Replacement}
      (concluded : call.phase = .finished .abandoned) :
      Serves service call (.replace download target progress)
  | discards {entries : List Nat}
      (doing : (∃ result, call.phase = .discarding result) ∨ call.phase = .finished .abandoned)
      (about : ∀ number ∈ entries, service.About call.request number) :
      Serves service call (.discard entries)

/-- What a call hands out when the entries that it holds are let go of. -/
inductive Discards : Request → Result → Prop where
  | failed {printer : String} {error : Error} :
      Discards (.refresh printer) (.refreshed (.error error))
  | forgotten {printer : String} : Discards (.invalidate printer) (.invalidated true)
  | drained : Discards .shutdown .shutDown

/-- A call comes to a phase only if its request leads there. -/
inductive Suits : Request → Phase → Prop where
  | starting {request : Request} : Suits request .starting
  | queued {request : Request} {printer : String} {number : Nat}
      (about : request.printer? = some printer) : Suits request (.queued number)
  | gripping {printer : String} {phase : Phase} {number : Nat}
      (grip : phase.grip? = some number) : Suits (.refresh printer) phase
  | discarding {request : Request} {result : Result} (discards : Discards request result) :
      Suits request (.discarding result)
  | discarded {request : Request} {result : Result} (discards : Discards request result) :
      Suits request (.discarded result)
  | sealing : Suits .shutdown .sealing
  | asking {asked query : Query} {exchange : Exchange (Reply Nat)} :
      Suits (.ask asked) (.asking query exchange)
  | finished {request : Request} {result : Result} : Suits request (.finished result)

theorem Suits.discarded_of (suits : Suits request (.discarding result)) :
    Suits request (.discarded result) := by
  cases suits with
  | gripping grip => contradiction
  | discarding discards => exact .discarded discards

theorem Suits.sealing_of (suits : Suits request (.discarded .shutDown)) :
    Suits request .sealing := by
  cases suits with
  | gripping grip => contradiction
  | discarded discards =>
      cases discards
      exact .sealing

theorem Suits.ask {query : Query} {exchange next : Exchange (Reply Nat)}
    (suits : Suits request (.asking query exchange)) : Suits request (.asking query next) := by
  cases suits with
  | gripping grip => contradiction
  | asking => exact .asking

structure Fits (service : Service) (who : Nat) (call : Call) : Prop where
  suits : Suits call.request call.phase
  handle : ∀ number, call.phase.handle? = some number → service.About call.request number
  grip : ∀ number, call.phase.grip? = some number →
    ∃ printer, call.request = .refresh printer ∧ service.Holds who number printer
  empty : ∀ number error entry,
    call.phase = .failed number error ∨ call.phase = .unlisted number error →
      service.entry? number = some entry → entry.current = none
  struck : ∀ number error, call.phase = .unlisted number error →
    ∀ printer, service.listed? printer ≠ some number
  job : ∀ job, service.jobs.entry? who = some job → service.Serves call job

/-- Every call and every job finds what it has hold of, and everything that is there is
there for somebody. -/
structure Orderly (service : Service) : Prop where
  keyed : service.Keyed
  named : service.Named
  counted : service.disk.IsCounted
  listed : ∀ printer number, service.listed? printer = some number →
    ∃ entry, service.entry? number = some entry ∧ entry.printer = printer
  referenced : ∀ number entry, service.entry? number = some entry → service.Refers number
  calls : ∀ who call, service.call? who = some call → service.Fits who call
  jobs : ∀ who job, service.jobs.entry? who = some job → ∃ call, service.call? who = some call
  staged : ∀ who bytes, service.disk.staged.entry? who = some bytes →
    ∃ job, service.jobs.entry? who = some job ∧ job.Stages bytes

theorem Fails.grip (fails : Fails entry number phase error) : phase.grip? = some number := by
  cases fails <;> rfl

theorem Fails.handle (fails : Fails entry number phase error) : phase.handle? = some number :=
  handle?_of_grip fails.grip

/-- Phases in which a call can have a job. -/
def Phase.works : Phase → Bool
  | .replacing .. | .discarding _ | .finished .abandoned => true
  | _ => false

theorem Fits.idle (fits : service.Fits who call) (rests : call.phase.works = false) :
    service.jobs.entry? who = none := by
  cases working : service.jobs.entry? who with
  | none => rfl
  | some job =>
      rcases fits.job job working with ⟨doing, -⟩ | concluded | ⟨⟨_, doing⟩ | concluded, -⟩
      · simp [doing, Phase.works] at rests
      · simp [concluded, Phase.works] at rests
      · simp [doing, Phase.works] at rests
      · simp [concluded, Phase.works] at rests

theorem Orderly.idle (orderly : service.Orderly) (asked : service.call? who = some ⟨request, phase⟩)
    (rests : phase.works = false) : service.jobs.entry? who = none :=
  (orderly.calls who _ asked).idle rests

theorem Fits.free (suits : Suits request phase) (loose : phase.handle? = none)
    (job : ∀ job, service.jobs.entry? who = some job → service.Serves ⟨request, phase⟩ job) :
    service.Fits who ⟨request, phase⟩ := by
  refine ⟨suits, ?_, ?_, ?_, ?_, job⟩
  · intro number handle
    simp [loose] at handle
  · intro number grip
    have handle := handle?_of_grip grip
    simp [loose] at handle
  · rintro number error entry (doing | doing)
    · change phase = _ at doing
      simp [doing, Phase.handle?] at loose
    · change phase = _ at doing
      simp [doing, Phase.handle?] at loose
  · intro number error doing
    change phase = _ at doing
    simp [doing, Phase.handle?] at loose

theorem Fits.freeIdle (suits : Suits request phase) (loose : phase.handle? = none)
    (idle : service.jobs.entry? who = none) : service.Fits who ⟨request, phase⟩ := by
  apply Fits.free suits loose
  intro job working
  simp [idle] at working

theorem Fits.gripping (asks : request = .refresh printer) (holds : service.Holds who number printer)
    (grip : phase.grip? = some number)
    (empty : ∀ error, phase = .failed number error ∨ phase = .unlisted number error →
      ∀ entry, service.entry? number = some entry → entry.current = none)
    (struck : ∀ error, phase = .unlisted number error →
      ∀ printer, service.listed? printer ≠ some number)
    (job : ∀ job, service.jobs.entry? who = some job → service.Serves ⟨request, phase⟩ job) :
    service.Fits who ⟨request, phase⟩ := by
  have only {other : Nat} (handle : phase.handle? = some other) : other = number :=
    Option.some.inj (handle.symm.trans (handle?_of_grip grip))
  subst asks
  refine ⟨.gripping grip, ?_, ?_, ?_, ?_, job⟩
  · intro other handle
    obtain rfl := only handle
    obtain ⟨entry, known, -, named⟩ := holds
    refine ⟨entry, known, ?_⟩
    intro another about
    exact named.trans (Option.some.inj about)
  · intro other gripped
    obtain rfl := only (handle?_of_grip gripped)
    exact ⟨printer, rfl, holds⟩
  · intro other error entry doing known
    have handle : phase.handle? = some other := by
      rcases doing with doing | doing <;> simp only at doing <;> rw [doing] <;> rfl
    obtain rfl := only handle
    exact empty error doing entry known
  · intro other error doing
    have handle : phase.handle? = some other := by
      simp only at doing
      rw [doing]
      rfl
    obtain rfl := only handle
    exact struck error doing

/-- An entry that something still refers to is still there. -/
def Retains (before after : Service) : Prop :=
  ∀ number entry, before.entry? number = some entry → after.Refers number →
    ∃ later, after.entry? number = some later ∧ later.printer = entry.printer

theorem About.transport (about : before.About request number) (retains : Retains before after)
    (refers : after.Refers number) : after.About request number := by
  obtain ⟨entry, found, about⟩ := about
  obtain ⟨later, known, same⟩ := retains number entry found refers
  exact ⟨later, known, fun printer asked => same.trans (about printer asked)⟩

theorem Serves.transport (serves : before.Serves call job) (retains : Retains before after)
    (refers : ∀ entries number, job = .discard entries → number ∈ entries → after.Refers number) :
    after.Serves call job := by
  cases serves with
  | replaces doing asks => exact .replaces doing asks
  | outlives concluded => exact .outlives concluded
  | discards doing about =>
      refine .discards doing fun number member => ?_
      exact (about number member).transport retains (refers _ _ rfl member)

/-- A call fits as before if what it has hold of is as it was. -/
theorem Fits.transport (fits : before.Fits who call) (found : after.call? who = some call)
    (jobs : after.jobs.entry? who = before.jobs.entry? who)
    (listed : ∀ printer number, after.listed? printer = some number →
      before.listed? printer = some number ∨ before.entry? number = none)
    (retains : Retains before after)
    (held : ∀ number entry later, before.entry? number = some entry →
      entry.isHeldBy who = true → after.entry? number = some later →
      later.isHeldBy who = true ∧ later.current = entry.current) :
    after.Fits who call := by
  refine ⟨fits.suits, ?_, ?_, ?_, ?_, ?_⟩
  · intro number handle
    exact (fits.handle number handle).transport retains (.held found handle)
  · intro number grip
    obtain ⟨printer, asks, entry, known, first, named⟩ := fits.grip number grip
    obtain ⟨later, present, same⟩ := retains number entry known (.held found (handle?_of_grip grip))
    exact ⟨printer, asks, later, present, (held number entry later known first present).1,
      same.trans named⟩
  · intro number error later doing present
    have grip : call.phase.grip? = some number := by
      rcases doing with doing | doing <;> simp [doing, Phase.grip?]
    obtain ⟨printer, -, entry, known, first, -⟩ := fits.grip number grip
    rw [(held number entry later known first present).2]
    exact fits.empty number error entry doing known
  · intro number error doing printer there
    have grip : call.phase.grip? = some number := by simp [doing, Phase.grip?]
    obtain ⟨_, -, entry, known, -, -⟩ := fits.grip number grip
    rcases listed printer number there with kept | missing
    · exact fits.struck number error doing printer kept
    · simp [known] at missing
  · intro job working
    rw [jobs] at working
    refine (fits.job job working).transport retains ?_
    rintro entries number rfl member
    exact .discarded (jobs.trans working) member

/-- Why an entry may be struck off the list. -/
inductive Strikes (service : Service) (who number : Nat) : Prop where
  | forgotten {printer : String} (asked : service.call? who = some ⟨.invalidate printer, .starting⟩)
      (listed : service.listed? printer = some number)
  | drained (asked : service.call? who = some ⟨.shutdown, .starting⟩)
  | failed {request : Request} {error : Error}
      (asked : service.call? who = some ⟨request, .failed number error⟩)

def Settles (service : Service) (who number : Nat) (marker : Option String) (edition : Edition) :
    Prop :=
  service.phase? who = some (.replaced number marker (.ok edition))

def Places (before after : Service) (who : Nat) (name : FileName) : Prop :=
  ∃ download copy, before.jobs.entry? who = some (.replace download name (.placing copy)) ∧
    after.jobs.entry? who = some (.replace download name (.cleaning (.ok (copy.edition who))))

def licenceOf (before after : Service) (who : Nat) : Licence where
  strikes := before.Strikes who
  settles := before.Settles who
  places := Places before after who

/-- A call that ends lets go of its lock before what nothing refers to is
dropped. -/
theorem finish_frame (service : Service) (who : Nat) (result : Result) :
    ∃ middle, (∀ licence, Frame licence who service middle) ∧
      service.finish who result = middle.sweep ∧ middle.jobs = service.jobs ∧
      middle.disk = service.disk ∧ ∀ call, service.call? who = some call →
        middle.call? who = some { call with phase := .finished result } := by
  unfold finish
  split
  · exact ⟨_, fun _ => Frame.unlock.trans .setPhase, rfl, rfl, rfl,
      fun _ found => call?_setPhase_self found⟩
  · exact ⟨_, fun _ => .setPhase, rfl, rfl, rfl, fun _ found => call?_setPhase_self found⟩

theorem finish_jobs : (service.finish who result).jobs = service.jobs := by
  obtain ⟨middle, -, same, jobs, -⟩ := finish_frame service who result
  rw [same]
  exact jobs

theorem advances_caller {α : Type} {exchange next : Exchange α} {pool last : Pool}
    (advanced : exchange.Advances pool who event last next) : event.caller? = some who := by
  cases advanced <;> rfl

theorem Ends.caller (ends : Ends service who event request phase result) :
    event.caller? = some who := by
  cases ends <;> rfl

/-- What happens that is for no call. -/
inductive Aside (service : Service) : Event → Service → Prop where
  | pool {event : Event} {pool : Pool} (turns : service.pool.Turns none pool) :
      Aside service event { service with pool }
  | lose {download : Nat} :
      Aside service (.lose download)
        { service with disk := service.disk.removeDownload download }
  | removeDirectory :
      Aside service .removeDirectory { service with disk := service.disk.removeDirectory }

theorem Move.aside (moved : before.Move event after) (caller : event.caller? = none) :
    Aside before event after := by
  cases moved with
  | reap stepped | elapse stepped | age stepped =>
      refine .pool (.step stepped ?_)
      intro who borrower
      contradiction
  | lose => exact .lose
  | removeDirectory => exact .removeDirectory
  | advance _ advanced | ask _ advanced => simp [advances_caller advanced] at caller
  | finish _ ends => simp [ends.caller] at caller
  | _ => simp [Event.caller?] at caller

theorem Orderly.course (orderly : before.Orderly) (moved : before.Move event after)
    (caller : event.caller? = some who) :
    Course (licenceOf before after who) who before after := by
  have keyed := orderly.keyed
  have named := orderly.named
  cases moved with
  | enter new =>
      obtain rfl := Option.some.inj caller
      exact (Frame.enter new).course
  | create asked unlisted created =>
      obtain rfl := Option.some.inj caller
      exact create_course named asked unlisted created
  | queue asked about listed =>
      obtain rfl := Option.some.inj caller
      exact (Frame.enqueue.trans .setPhase).course
  | strike asked listed =>
      obtain rfl := Option.some.inj caller
      refine ((Frame.strike ?_).trans (Frame.enqueue.trans .setPhase)).course
      intro number there
      exact .forgotten asked there
  | drain asked =>
      obtain rfl := Option.some.inj caller
      have idle := orderly.idle asked rfl
      refine Frame.course (.trans (.relist (List.nil_sublist _) ?_ ?_)
        (.trans (.addJob ?_) .setPhase))
      · intro printer number there
        contradiction
      · intro printer number there
        exact .inr (.drained asked)
      · exact idle
  | query asked | fetch asked | fail asked =>
      obtain rfl := Option.some.inj caller
      exact Frame.setPhase.course
  | restart asked =>
      obtain rfl := Option.some.inj caller
      exact (Frame.unlock.trans .setPhase).swept keyed named
  | forget asked | take asked =>
      obtain rfl := Option.some.inj caller
      exact ((Frame.addJob (orderly.idle asked rfl)).trans .setPhase).course
  | advance asked advanced | ask asked advanced =>
      obtain rfl := Option.some.inj ((advances_caller advanced).symm.trans caller)
      exact (Frame.withPool.trans .setPhase).course
  | answer asked received =>
      obtain rfl := Option.some.inj caller
      exact ((Frame.receive received).trans (Frame.withPool.trans .setPhase)).course
  | hear asked received =>
      obtain rfl := Option.some.inj caller
      exact ((Frame.receiveAny received).trans (Frame.withPool.trans .setPhase)).course
  | @settle _ number _ marker edition entry _ asked known =>
      obtain rfl := Option.some.inj caller
      have settled : before.Settles _ number marker edition := phase?_of_call? asked
      obtain ⟨middle, frame, same, -⟩ := finish_frame _ _ (.refreshed (.ok ⟨entry.file, edition⟩))
      rw [same]
      exact Frame.swept (Frame.trans (.settle settled) (frame _)) keyed named
  | unlist asked known =>
      obtain rfl := Option.some.inj caller
      refine (Frame.trans ?_ .setPhase).course
      unfold strikeEntry
      split
      · rename_i there
        refine Frame.strike ?_
        intro number listed
        obtain rfl := Option.some.inj (there.symm.trans listed)
        exact .failed asked
      · exact .refl
  | release asked =>
      obtain rfl := Option.some.inj caller
      have idle := orderly.idle asked rfl
      exact Frame.course (.trans .unlock (.trans (.addJob (by exact idle)) .setPhase))
  | shutGate asked =>
      obtain rfl := Option.some.inj caller
      exact (Frame.withPool.trans .setPhase).course
  | sealUp asked =>
      obtain rfl := Option.some.inj caller
      obtain ⟨middle, frame, same, -⟩ := finish_frame _ _ .shutDown
      rw [same]
      exact (Frame.withPool.trans (frame _)).swept keyed named
  | @finish who _ _ _ result asked ends =>
      obtain rfl := Option.some.inj (ends.caller.symm.trans caller)
      obtain ⟨middle, frame, same, -⟩ := finish_frame before who result
      rw [same]
      exact (frame _).swept keyed named
  | prepare working prepared =>
      obtain rfl := Option.some.inj caller
      exact ((Frame.prepare prepared).trans .setJob).course
  | place working replaced =>
      obtain rfl := Option.some.inj caller
      refine ((Frame.place replaced ?_).trans .setJob).course
      refine ⟨_, _, working, ?_⟩
      change Roster.entry? (before.jobs.update _ _) _ = _
      rw [Roster.entry_update, if_pos rfl, working]
      rfl
  | clean working =>
      obtain rfl := Option.some.inj caller
      exact (Frame.removeDownload.trans (Frame.endJob.trans .deliver)).course
  | discard working =>
      obtain rfl := Option.some.inj caller
      exact ((Frame.unlockAll _).trans (Frame.endJob.trans .acknowledge)).swept keyed named
  | reap | elapse | age | lose | removeDirectory => contradiction

theorem Course.retains (course : Course licence who before after) : Retains before after := by
  intro number entry found refers
  rcases course.entries number entry found with ⟨later, known, becomes⟩ | dropped
  · exact ⟨later, known, becomes.printer⟩
  · exact absurd refers dropped.loose

/-- The file of an entry that stays is written only where a document is put in it. -/
theorem Course.content (course : Course licence who before after) (named : before.Named)
    (found : before.entry? number = some entry) (refers : after.Refers number) :
    after.disk.content? entry.file = before.disk.content? entry.file ∨
      licence.places entry.file := by
  obtain ⟨file, early⟩ := named number entry found
  rcases course.files entry.file with same | places | ⟨_, creates, -⟩ | ⟨_, -, -, dropped⟩
  · exact .inl same
  · exact .inr places
  · rw [file] at creates
    have next : number = before.nextEntry := creates.next
    rw [next] at early
    exact absurd early (Nat.lt_irrefl _)
  · rw [file] at dropped
    exact absurd refers dropped.loose

/-- An entry that had a file has it still, unless the file is gone. -/
theorem Course.keeps_file {name : FileName} {bytes : List UInt8}
    (course : Course licence who before after) (content : after.disk.content? name = some bytes)
    (found : before.entry? name.tag = some entry) (file : entry.file = name) :
    ∃ later, after.entry? name.tag = some later ∧ later.file = name := by
  rcases course.entries _ entry found with ⟨later, known, becomes⟩ | dropped
  · exact ⟨later, known, becomes.file.trans file⟩
  · have empty := dropped.empty
    rw [file, content] at empty
    contradiction

theorem Orderly.holds_of_settles {marker : Option String} {edition : Edition}
    (orderly : service.Orderly) (settles : service.Settles who number marker edition) :
    ∃ printer, service.Holds who number printer := by
  obtain ⟨call, found, doing⟩ := call?_of_phase? settles
  obtain ⟨printer, -, holds⟩ := (orderly.calls who call found).grip number (by rw [doing]; rfl)
  exact ⟨printer, holds⟩

/-- An entry that one call has locked is not changed by another. -/
theorem Orderly.locked {later : Entry} (orderly : before.Orderly)
    (course : Course (licenceOf before after who) who before after) (different : other ≠ who)
    (found : before.entry? number = some entry) (held : entry.isHeldBy other = true)
    (known : after.entry? number = some later) :
    later.isHeldBy other = true ∧ later.marker = entry.marker ∧ later.current = entry.current := by
  rcases course.entries number entry found with ⟨same, again, becomes⟩ | dropped
  · obtain rfl := Option.some.inj (known.symm.trans again)
    refine ⟨becomes.held other different held, ?_⟩
    rcases becomes.settled with unchanged | ⟨edition, settles, -⟩
    · exact unchanged
    · obtain ⟨printer, holds⟩ := orderly.holds_of_settles settles
      have mine : before.Holds other number entry.printer := ⟨entry, found, held, rfl⟩
      exact absurd (holds.unique mine) different
  · simp [dropped.missing] at known

theorem Orderly.fits_other (orderly : before.Orderly)
    (course : Course (licenceOf before after who) who before after) (different : other ≠ who)
    (found : after.call? other = some call) : after.Fits other call := by
  have known : before.call? other = some call := (course.calls other different).symm.trans found
  refine (orderly.calls other call known).transport found (course.jobs other different) ?_
    course.retains ?_
  · intro printer number there
    rcases course.listed printer number there with kept | creates
    · exact .inl kept
    · rw [creates.next]
      exact .inr orderly.named.missing
  · intro number entry later found held known
    obtain ⟨first, -, current⟩ := orderly.locked course different found held known
    exact ⟨first, current⟩

/-- What a move of one call leaves is in order if it is for that call. -/
theorem Orderly.of_course (orderly : before.Orderly)
    (course : Course (licenceOf before after who) who before after)
    (found : after.call? who = some call) (fits : after.Fits who call)
    (staged : ∀ bytes, after.disk.staged.entry? who = some bytes →
      ∃ job, after.jobs.entry? who = some job ∧ job.Stages bytes)
    (refers : ∀ number entry, before.Refers number → after.entry? number = some entry →
      after.Refers number) : after.Orderly := by
  refine
    { keyed := course.keyed orderly.keyed, named := ?_, counted := course.counted orderly.counted
      listed := ?_, referenced := ?_, calls := ?_, jobs := ?_, staged := ?_ }
  · intro number entry known
    cases old : before.entry? number with
    | none =>
        have creates := course.fresh number entry old known
        refine ⟨?_, by rw [creates.counted]; exact Nat.lt_succ_self _⟩
        obtain same := Option.some.inj (known.symm.trans creates.known)
        rw [same]
    | some first =>
        rcases course.entries number first old with ⟨later, again, becomes⟩ | dropped
        · obtain rfl := Option.some.inj (known.symm.trans again)
          obtain ⟨file, early⟩ := orderly.named number first old
          rw [becomes.file, becomes.printer]
          exact ⟨file, Nat.lt_of_lt_of_le early course.nextEntry⟩
        · simp [dropped.missing] at known
  · intro printer number there
    rcases course.listed printer number there with kept | creates
    · obtain ⟨entry, known, named⟩ := orderly.listed printer number kept
      obtain ⟨later, present, same⟩ := course.retains number entry known (.listed there)
      exact ⟨later, present, same.trans named⟩
    · exact ⟨_, creates.known, rfl⟩
  · intro number entry known
    cases old : before.entry? number with
    | none => exact .listed (course.fresh number entry old known).listed
    | some first => exact refers number entry (orderly.referenced number first old) known
  · intro other call known
    by_cases same : other = who
    · subst same
      obtain rfl := Option.some.inj (found.symm.trans known)
      exact fits
    · exact orderly.fits_other course same known
  · intro other job working
    by_cases same : other = who
    · subst same
      exact ⟨call, found⟩
    · rw [course.jobs other same] at working
      rw [course.calls other same]
      exact orderly.jobs other job working
  · intro other bytes there
    by_cases same : other = who
    · subst same
      exact staged bytes there
    · rw [course.staged other same] at there
      rw [course.jobs other same]
      exact orderly.staged other bytes there

/-- A number stays referred to if the call that moves keeps hold of it. -/
theorem Local.refers (apart : Local licence who before after) (refers : before.Refers number)
    (struck : ∀ printer, before.listed? printer = some number → licence.strikes number →
      after.Refers number)
    (handle : ∀ call, before.call? who = some call → call.phase.handle? = some number →
      after.Refers number)
    (discards : ∀ entries, before.jobs.entry? who = some (.discard entries) → number ∈ entries →
      after.Refers number) : after.Refers number := by
  cases refers with
  | listed listed =>
      rcases apart.struck _ number listed with kept | gone
      · exact .listed kept
      · exact struck _ listed gone
  | @held other call found taken =>
      by_cases same : other = who
      · subst same
        exact handle call found taken
      · exact .held ((apart.calls other same).trans found) taken
  | @discarded other entries working member =>
      by_cases same : other = who
      · subst same
        exact discards entries working member
      · exact .discarded ((apart.jobs other same).trans working) member

theorem Keyed.referenced_sweep (keyed : service.Keyed)
    (found : service.sweep.entry? number = some entry) : service.sweep.Refers number := by
  rw [refers_sweep]
  by_contra loose
  simp [keyed.entry?_sweep_none loose] at found

end PrintConnector.Service
