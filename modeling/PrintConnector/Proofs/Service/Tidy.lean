import Mathlib.Data.List.Induction
import PrintConnector.Proofs.Service.ShutDown

/-! Every listed entry has its file, and no file is left over.

Files come with their entries and go with them, whoever lets go of an entry last.
The one thing that can leave a file behind is the job of a refresh that was given
up while the job had its document in hand; as long as nobody gives up there, a job
is at work only for a call that waits for it.
-/

namespace PrintConnector.Service

open Cache (Disk Edition Entry FileName stemOf)

variable {fresh before after service : Service} {event : Event} {events front back : List Event}
  {who number download : Nat} {printer : String} {name target : FileName} {settings : Settings}
  {progress : Replacement} {request : Request} {phase : Phase} {entry : Entry}

/-- The names of the files in the directory of the cache. -/
def names (service : Service) : List FileName :=
  service.disk.files.map (·.1)

theorem mem_names : name ∈ service.names ↔ ∃ bytes, service.disk.content? name = some bytes := by
  rw [names, Disk.content?]
  constructor
  · intro member
    cases found : service.disk.files.lookup name with
    | some bytes => exact ⟨bytes, rfl⟩
    | none =>
        obtain ⟨file, inside, rfl⟩ := List.mem_map.mp member
        simpa using List.lookup_eq_none_iff.mp found file inside
  · rintro ⟨bytes, found⟩
    exact List.mem_map_of_mem (mem_of_lookup found)

/-- Nobody gives up a call whose job puts a document in place. -/
def Event.isPatient (event : Event) (service : Service) : Bool :=
  match event with
  | .abandon who =>
      match service.phase? who with
      | some (.replacing ..) => false
      | _ => true
  | _ => true

/-- Every replacement is under way for a call that waits for it. -/
def Attended (service : Service) : Prop :=
  ∀ who download target progress,
    service.jobs.entry? who = some (.replace download target progress) →
      ∃ number marker, service.phase? who = some (.replacing number marker)

theorem Attended.step (attended : before.Attended) (orderly : before.Orderly)
    (taken : before.step? event = some after) (patient : event.isPatient before = true) :
    after.Attended := by
  intro who download target progress working
  by_cases caller : event.caller? = some who
  · cases orderly.hauls (move_of_step taken) caller working with
    | take asked => exact ⟨_, _, phase?_of_call? (call?_setPhase_self asked)⟩
    | prepare earlier | place earlier => exact attended who _ _ _ earlier
    | desert asked => simp [Event.isPatient, phase?_of_call? asked] at patient
  · obtain ⟨calls, jobs⟩ := orderly.stays taken caller
    rw [jobs] at working
    rw [phase?, calls]
    exact attended who _ _ _ working

/-- A document in a file is there under its name. -/
theorem Orderly.placed (orderly : before.Orderly) (taken : before.step? event = some after)
    (caller : event.caller? = some who) (places : Places before after who name) :
    name ∈ after.names := by
  obtain ⟨download, copy, earlier, working⟩ := places
  generalize placed : Replacement.cleaning (.ok (copy.edition who)) = progress at working
  cases orderly.hauls (move_of_step taken) caller working with
  | take => contradiction
  | prepare again prepared =>
      obtain ⟨-, -, rfl⟩ := Job.replace.inj (Option.some.inj (earlier.symm.trans again))
      exact absurd placed.symm prepared.not_done
  | place again replaced =>
      obtain ⟨found, -, -, contents⟩ := Disk.content?_replace replaced
      exact mem_names.mpr ⟨found, (contents name).trans (if_pos rfl)⟩
  | desert _ again =>
      obtain ⟨-, -, rfl⟩ := Job.replace.inj (Option.some.inj (earlier.symm.trans again))
      contradiction

/-- Every entry has its file. -/
def Stored (service : Service) : Prop :=
  ∀ number entry, service.entry? number = some entry → entry.file ∈ service.names

theorem Stored.step (stored : before.Stored) (orderly : before.Orderly)
    (taken : before.step? event = some after) (kept : event ≠ .removeDirectory) :
    after.Stored := by
  intro number entry found
  have moved := move_of_step taken
  cases caller : event.caller? with
  | none =>
      cases moved.aside caller with
      | pool | lose => exact stored number entry found
      | removeDirectory => contradiction
  | some mover =>
      have course := orderly.course moved caller
      cases old : before.entry? number with
      | none =>
          have creates := course.fresh number entry old found
          have file := congrArg Entry.file (Option.some.inj (found.symm.trans creates.known))
          have content := creates.content
          rw [file]
          refine mem_names.mpr ?_
          cases known : before.disk.content? ⟨stemOf entry.printer, number⟩ with
          | none => exact ⟨[], by rw [content, known]; rfl⟩
          | some bytes => exact ⟨bytes, by rw [content, known]; rfl⟩
      | some first =>
          have refers := (orderly.step taken).referenced number entry found
          rcases course.entries number first old with ⟨later, again, becomes⟩ | dropped
          · obtain rfl := Option.some.inj (found.symm.trans again)
            rw [becomes.file]
            rcases course.content orderly.named old refers with same | places
            · rw [mem_names, same, ← mem_names]
              exact stored number first old
            · exact orderly.placed taken caller places
          · exact absurd refers dropped.loose

/-- Every file belongs to an entry. -/
def Owned (service : Service) : Prop :=
  ∀ name ∈ service.names, ∃ entry, service.entry? name.tag = some entry ∧ entry.file = name

theorem Prepares.files {disk last : Disk} {next : Replacement}
    (prepared : Prepares disk who download target progress last next) :
    last.files = disk.files := by
  cases prepared with
  | read | unread | unstaged | unwritten | unplaced => rfl
  | stage staged => rw [Disk.stage_inv staged]
  | append appended => rw [(Disk.append_inv appended).1]

theorem names_sweep : service.sweep.names.Sublist service.names := by
  have thinned (names : List FileName) (disk : Disk) :
      (names.foldl Disk.delete disk).files.Sublist disk.files := by
    induction names generalizing disk with
    | nil => exact .refl _
    | cons name names ih => exact (ih (disk.delete name)).trans List.filter_sublist
  have deleted : service.sweep.disk =
      ((service.entries.filter fun entry => !service.isReferenced entry.1).map
        fun entry => entry.2.file).foldl Disk.delete service.disk := by
    rw [List.foldl_map]
    rfl
  rw [names, deleted]
  exact (thinned _ _).map _

theorem names_finish {result : Result} :
    (service.finish who result).names.Sublist service.names := by
  obtain ⟨middle, -, same, -, disk, -⟩ := finish_frame service who result
  have still : middle.names = service.names := by rw [names, disk, names]
  rw [same, ← still]
  exact names_sweep

theorem names_receive {reply : PpdReply (List UInt8)} {taken : PpdReply Nat}
    (received : service.receive reply = (after, taken)) : after.names = service.names := by
  cases reply <;> obtain ⟨rfl, -⟩ := Prod.mk.inj received <;> rfl

theorem names_receiveAny {reply : Reply (List UInt8)} {taken : Reply Nat}
    (received : service.receiveAny reply = (after, taken)) : after.names = service.names := by
  cases reply with
  | ppd reply =>
      obtain ⟨rfl, -⟩ := Prod.mk.inj received
      exact names_receive rfl
  | printers _ | attributes _ =>
      obtain ⟨rfl, -⟩ := Prod.mk.inj received
      rfl

/-- No two files have one name. -/
theorem Orderly.names_nodup (orderly : before.Orderly) (owned : before.Owned)
    (moved : before.Move event after) (nodup : before.names.Nodup) : after.names.Nodup := by
  cases moved with
  | @create _ printer _ _ asked unlisted created =>
      -- The new name has a number that no entry had, so no file has it.
      have fresh : ⟨stemOf printer, before.nextEntry⟩ ∉ before.names := by
        intro member
        obtain ⟨entry, known, -⟩ := owned _ member
        rw [orderly.named.missing] at known
        contradiction
      obtain rfl := Disk.create_inv created
      change (List.map (·.1) (before.disk.files ++ [_])).Nodup
      rw [List.map_append, List.map_singleton, ← List.concat_eq_append]
      exact .concat fresh nodup
  | place working replaced =>
      obtain ⟨bytes, -, rfl⟩ := Disk.replace_inv replaced
      change (List.map (·.1) ((before.disk.files.filter _) ++ [_])).Nodup
      rw [List.map_append, List.map_singleton, ← List.concat_eq_append]
      refine .concat (fun member => ?_) (nodup.sublist (List.filter_sublist.map _))
      obtain ⟨file, kept, same⟩ := List.mem_map.mp member
      simpa [same] using (List.mem_filter.mp kept).2
  | answer asked received =>
      have same := names_receive received
      exact (congrArg List.Nodup same).mpr nodup
  | hear asked received =>
      have same := names_receiveAny received
      exact (congrArg List.Nodup same).mpr nodup
  | prepare working prepared =>
      have same := congrArg (List.map Prod.fst) (Prepares.files prepared)
      exact (congrArg List.Nodup same).mpr nodup
  | restart => exact nodup.sublist names_sweep
  | settle | sealUp | finish => exact nodup.sublist names_finish
  | unlist =>
      obtain ⟨listing, same⟩ := strikeEntry_eq before _ _
      rw [same]
      exact nodup
  | clean =>
      unfold deliver
      split <;> exact nodup
  | @discard who entries =>
      obtain ⟨loosened, unlocked⟩ := unlockAll_eq before who entries
      refine List.Nodup.sublist names_sweep ?_
      rw [unlocked]
      unfold acknowledge
      split <;> exact nodup
  | removeDirectory => exact List.nodup_nil
  | _ => exact nodup

/-- Nobody gives up a call in a run while its job puts a document in place. -/
def Patient (fresh : Service) (events : List Event) : Prop :=
  ∀ front event back before, events = front ++ event :: back →
    fresh.run? front = some before → event.isPatient before = true

def isPatient (service : Service) : List Event → Bool
  | [] => true
  | event :: events =>
      event.isPatient service &&
        match service.step? event with
        | some next => next.isPatient events
        | none => true

theorem patient_of_isPatient (checked : fresh.isPatient events = true) : Patient fresh events := by
  rintro front event back before rfl reached
  induction front generalizing fresh with
  | nil =>
      obtain rfl := Option.some.inj reached
      exact (Bool.and_eq_true_iff.mp checked).1
  | cons first front ih =>
      obtain ⟨next, taken, rest⟩ := run?_cons.mp reached
      have later := (Bool.and_eq_true_iff.mp checked).2
      simp only [taken] at later
      exact ih later rest

/-- What every step keeps that is taken patiently and in the directory. -/
structure Kept (service : Service) : Prop where
  attended : service.Attended
  stored : service.Stored
  owned : service.Owned
  nodup : service.names.Nodup

theorem start_kept (started : start settings = .ok fresh) : fresh.Kept := by
  obtain rfl := start_inv started
  refine ⟨?_, ?_, ?_, List.nodup_nil⟩
  · intro who download target progress working
    contradiction
  · intro number entry found
    contradiction
  · intro name member
    contradiction

theorem Kept.owned_step (kept : before.Kept) (orderly : before.Orderly)
    (taken : before.step? event = some after) : after.Owned := by
  intro name member
  obtain ⟨bytes, content⟩ := mem_names.mp member
  have moved := move_of_step taken
  have owner {bytes : List UInt8} (content : before.disk.content? name = some bytes) :
      ∃ entry, before.entry? name.tag = some entry ∧ entry.file = name :=
    kept.owned name (mem_names.mpr ⟨bytes, content⟩)
  cases caller : event.caller? with
  | none =>
      cases moved.aside caller with
      | pool | lose => exact kept.owned name member
      | removeDirectory => contradiction
  | some mover =>
      have course := orderly.course moved caller
      rcases course.files name with
        same | places | ⟨printer, creates, stem⟩ | ⟨entry, known, file, -⟩
      · obtain ⟨entry, known, file⟩ := owner (same.symm.trans content)
        exact course.keeps_file content known file
      · rcases orderly.places_cases places with ⟨-, entry, known, file⟩ | concluded
        · exact course.keeps_file content known file
        · obtain ⟨download, copy, working, -⟩ := places
          obtain ⟨number, marker, doing⟩ := kept.attended _ _ _ _ working
          simp [doing] at concluded
      · exact ⟨_, creates.known, by rw [← stem]⟩
      · exact course.keeps_file content known file

theorem Kept.step (kept : before.Kept) (orderly : before.Orderly)
    (taken : before.step? event = some after) (patient : event.isPatient before = true)
    (present : event ≠ .removeDirectory) : after.Kept where
  attended := kept.attended.step orderly taken patient
  stored := kept.stored.step orderly taken present
  owned := kept.owned_step orderly taken
  nodup := orderly.names_nodup kept.owned (move_of_step taken) kept.nodup

theorem run_kept (started : start settings = .ok fresh) (ran : fresh.run? events = some service)
    (present : .removeDirectory ∉ events) (patient : Patient fresh events) : service.Kept := by
  induction events using List.reverseRecOn generalizing service with
  | nil =>
      obtain rfl := Option.some.inj ran
      exact start_kept started
  | append_singleton events event ih =>
      obtain ⟨between, reached, last⟩ := run?_split ran
      obtain ⟨after, taken, done⟩ := run?_cons.mp last
      obtain rfl := Option.some.inj done
      have orderly := (start_orderly started).run reached
      refine (ih reached ?_ ?_).step orderly taken (patient events event [] between rfl reached) ?_
      · exact fun member => present (List.mem_append_left _ member)
      · rintro front other back before rfl ran
        exact patient front other (back ++ [event]) before (by simp) ran
      · rintro rfl
        exact present (List.mem_append_right _ (List.mem_singleton_self _))

/-- The file of a printer whose entry has a number. -/
def pathOf (listed : String × Nat) : FileName :=
  ⟨stemOf listed.1, listed.2⟩

/-- The files of the cache between any two events. -/
structure Tidy (service : Service) : Prop where
  /-- A listed entry has its file, once. -/
  listed : ∀ printer number, service.listed? printer = some number →
    ∃ entry, service.entry? number = some entry ∧ entry.file = pathOf (printer, number) ∧
      service.names.count entry.file = 1
  distinct : (service.listing.map pathOf).Nodup

/-- What is left when nothing is under way. -/
structure Settled (fresh : Service) (events : List Event) (service : Service) : Prop where
  /-- There is one file for every listed entry, and no other. -/
  files : service.names.Perm (service.listing.map pathOf)
  staged : service.disk.staged = []
  /-- No document that a refresh was handed is there any more. -/
  downloads : ∀ front who printer bytes marker back before,
    events = front ++ .answered who (.ok (.ppd (.document bytes marker))) :: back →
    fresh.run? front = some before →
    (∀ call, before.call? who = some call → call.request = .refresh printer) →
    service.disk.downloads.entry? before.disk.nextDownload = none

theorem Orderly.paths_nodup (orderly : service.Orderly) :
    (service.listing.map pathOf).Nodup := by
  have printers := orderly.keyed.listing
  refine (List.nodup_map_iff_inj_on (printers.of_map _)).mpr ?_
  rintro ⟨printer, number⟩ one ⟨other, again⟩ two same
  obtain rfl : number = again := congrArg FileName.tag same
  obtain ⟨entry, known, named⟩ := orderly.listed _ _ (lookup_of_mem printers one)
  obtain ⟨entry', known', named'⟩ := orderly.listed _ _ (lookup_of_mem printers two)
  obtain rfl := Option.some.inj (known.symm.trans known')
  rw [← named, ← named']

theorem Kept.tidy (kept : service.Kept) (orderly : service.Orderly) : service.Tidy where
  listed printer number listed := by
    obtain ⟨entry, known, named⟩ := orderly.listed printer number listed
    refine ⟨entry, known, ?_, ?_⟩
    · rw [(orderly.named number entry known).1, named]
      rfl
    · exact List.count_eq_one_of_mem kept.nodup (kept.stored number entry known)
  distinct := orderly.paths_nodup

/-- When every call is over, only a job that lets go of entries can be under way. -/
theorem Attended.idle (attended : service.Attended) (quiet : service.Quiet)
    (undone : ∀ who entries, service.jobs.entry? who ≠ some (.discard entries)) :
    service.jobs.entry? who = none := by
  cases working : service.jobs.entry? who with
  | none => rfl
  | some job =>
      cases job with
      | discard entries => exact absurd working (undone who entries)
      | replace download target progress =>
          obtain ⟨number, marker, doing⟩ := attended who _ _ _ working
          obtain ⟨call, found, phase⟩ := call?_of_phase? doing
          obtain ⟨result, ended⟩ := quiet.finished found
          rw [ended] at phase
          contradiction

theorem Kept.files (kept : service.Kept) (orderly : service.Orderly) (quiet : service.Quiet)
    (idle : ∀ who, service.jobs.entry? who = none) :
    service.names.Perm (service.listing.map pathOf) := by
  refine (List.perm_ext_iff_of_nodup kept.nodup orderly.paths_nodup).mpr fun name => ?_
  constructor
  · intro member
    obtain ⟨entry, known, file⟩ := kept.owned name member
    obtain ⟨printer, listed⟩ : ∃ printer, service.listed? printer = some name.tag := by
      cases orderly.referenced _ entry known with
      | listed listed => exact ⟨_, listed⟩
      | held found handle =>
          obtain ⟨result, ended⟩ := quiet.finished found
          simp [ended, Phase.handle?] at handle
      | discarded working =>
          rw [idle] at working
          contradiction
    obtain ⟨entry', known', named⟩ := orderly.listed printer _ listed
    obtain rfl := Option.some.inj (known.symm.trans known')
    refine List.mem_map.mpr ⟨_, mem_of_lookup listed, ?_⟩
    rw [← file, (orderly.named _ entry known).1, named]
    rfl
  · intro member
    obtain ⟨⟨printer, number⟩, inside, rfl⟩ := List.mem_map.mp member
    obtain ⟨entry, known, named⟩ :=
      orderly.listed printer number (lookup_of_mem orderly.keyed.listing inside)
    have stored := kept.stored number entry known
    rw [(orderly.named number entry known).1, named] at stored
    exact stored

/-- No file is left over and none is missing: a listed entry has its file between any
two events, and when nothing is under way there is nothing else. -/
theorem run_tidy (started : start settings = .ok fresh) (ran : fresh.run? events = some service)
    (present : .removeDirectory ∉ events) (patient : Patient fresh events) :
    service.Tidy ∧
      (service.Quiet → (∀ who entries, service.jobs.entry? who ≠ some (.discard entries)) →
        Settled fresh events service) := by
  have first := start_orderly started
  have orderly := first.run ran
  have kept := run_kept started ran present patient
  refine ⟨kept.tidy orderly, fun quiet undone => ?_⟩
  have idle (who : Nat) : service.jobs.entry? who = none := kept.attended.idle quiet undone
  have unstaged : service.disk.staged = [] :=
    Roster.eq_nil_of_entry_none fun who => orderly.unstaged (idle who)
  refine ⟨kept.files orderly quiet idle, unstaged, ?_⟩
  rintro front who printer bytes marker back before rfl reached asks
  obtain ⟨_, again, rest⟩ := run?_split ran
  obtain rfl := Option.some.inj (reached.symm.trans again)
  have order := first.run reached
  obtain ⟨between, taken, last⟩ := run?_cons.mp rest
  cases (order.received taken asks).run (order.step taken) last with
  | fetched asked =>
      obtain ⟨result, ended⟩ := quiet.finished asked
      contradiction
  | taken working =>
      rw [idle] at working
      contradiction
  | gone _ missing => exact missing

/-- One printer is refreshed and then forgotten, and the refresh of another one is
given up while it waits for the server. -/
def forgottenAndGivenUp : List Event :=
  firstRefresh ++
    [.call 1 (.refresh "lab"), .go 1 none, .go 1 none, .go 1 none, .go 1 none, .go 1 none,
      .go 1 none, .call 2 (.invalidate "office"), .go 2 none, .abandon 1, .go 2 none, .work 2 none,
      .go 1 none, .go 1 none, .go 1 none, .go 2 none]

theorem forgottenAndGivenUp_tidy :
    ∃ fresh service, start (.standard "cache") = .ok fresh ∧
      fresh.run? forgottenAndGivenUp = some service ∧ .removeDirectory ∉ forgottenAndGivenUp ∧
      Patient fresh forgottenAndGivenUp ∧ service.Quiet ∧ service.jobs = [] ∧
      service.listing = [("lab", 1)] ∧ service.names = [pathOf ("lab", 1)] ∧
      service.Tidy ∧ Settled fresh forgottenAndGivenUp service := by
  have started : start (.standard "cache") =
      .ok { pool := .start (.ofSettings (.standard "cache")) } := rfl
  have ran : run? { pool := .start (.ofSettings (.standard "cache")) } forgottenAndGivenUp =
      some _ := rfl
  have present : .removeDirectory ∉ forgottenAndGivenUp := by
    simp [forgottenAndGivenUp, firstRefresh]
  have patient : Patient { pool := .start (.ofSettings (.standard "cache")) } forgottenAndGivenUp :=
    patient_of_isPatient rfl
  obtain ⟨tidy, settled⟩ := run_tidy started ran present patient
  refine ⟨_, _, started, ran, present, patient, quiet_of_calls rfl, rfl, rfl, rfl, tidy, ?_⟩
  exact settled (quiet_of_calls rfl) (by intro who entries working; cases working)

end PrintConnector.Service
