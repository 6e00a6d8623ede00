import PrintConnector.Proofs.Service.Entry
import PrintConnector.Proofs.Service.Move

/-! What one move leaves as it was.

A move is made for one call.  It does not touch the calls, jobs and staging files
of the others, and changes an entry only in the line for its lock, unless it is
one of the few moves that strike an entry off the list, give it another document
or put a document in its file.  What nothing refers to afterwards is gone.
-/

namespace PrintConnector.Service

open Cache (Disk Edition Entry Fault FileName stemOf)

variable {before middle after service : Service} {who number : Nat} {phase : Phase}
  {entry : Entry} {printer : String} {name : FileName} {disk : Disk} {job : Job} {event : Event}

structure Keyed (service : Service) : Prop where
  calls : service.calls.Distinct
  jobs : service.jobs.Distinct
  entries : service.entries.Distinct
  listing : (service.listing.map Prod.fst).Nodup

def Named (service : Service) : Prop :=
  ∀ number entry, service.entry? number = some entry →
    entry.file = ⟨stemOf entry.printer, number⟩ ∧ number < service.nextEntry

inductive Refers (service : Service) (number : Nat) : Prop where
  | listed {printer : String} (listed : service.listed? printer = some number)
  | held {who : Nat} {call : Call} (found : service.call? who = some call)
      (handle : call.phase.handle? = some number)
  | discarded {who : Nat} {entries : List Nat}
      (working : service.jobs.entry? who = some (.discard entries)) (member : number ∈ entries)

theorem Refers.isReferenced (refers : service.Refers number) :
    service.isReferenced number = true := by
  cases refers with
  | listed listed =>
      have taken : (service.listing.any fun item => item.2 = number) = true :=
        List.any_eq_true.mpr ⟨_, mem_of_lookup listed, decide_eq_true rfl⟩
      simp [Service.isReferenced, taken]
  | held found handle => exact isReferenced_of_handle found handle
  | discarded working member =>
      simp only [Service.isReferenced, Bool.or_eq_true]
      right
      exact List.any_eq_true.mpr ⟨_, Roster.mem_of_entry working, by simpa using member⟩

theorem Keyed.isReferenced_iff (keyed : service.Keyed) :
    service.isReferenced number = true ↔ service.Refers number := by
  constructor
  · intro referenced
    simp only [isReferenced, Bool.or_eq_true, List.any_eq_true, decide_eq_true_eq] at referenced
    rcases referenced with (⟨item, member, rfl⟩ | ⟨item, member, handle⟩) | ⟨item, member, taken⟩
    · exact .listed (lookup_of_mem keyed.listing member)
    · exact .held (keyed.calls.entry_of_mem member) handle
    · obtain ⟨who, job⟩ := item
      cases job with
      | replace download target progress => simp at taken
      | discard entries =>
          exact .discarded (keyed.jobs.entry_of_mem member) (by simpa using taken)
  · exact Refers.isReferenced

theorem listed?_strike {other : String} : (service.strike printer).listed? other =
    if other = printer then none else service.listed? other := by
  refine (lookup_filter fun key : String => decide (key ≠ printer)).trans ?_
  by_cases same : other = printer <;> simp [same, listed?]

/-- What a move does that a frame does not rule out. -/
structure Licence where
  strikes : Nat → Prop
  settles : Nat → Option String → Edition → Prop
  places : FileName → Prop

structure Becomes (licence : Licence) (who number : Nat) (entry later : Entry) : Prop where
  printer : later.printer = entry.printer
  file : later.file = entry.file
  held : ∀ other, other ≠ who → entry.isHeldBy other = true → later.isHeldBy other = true
  /-- The others keep their places in line. -/
  line : later.line.filter (· ≠ who) = entry.line.filter (· ≠ who)
  settled : (later.marker = entry.marker ∧ later.current = entry.current) ∨
    ∃ edition, licence.settles number later.marker edition ∧ later.current = some edition

/-- Only what belongs to one call changes. -/
structure Local (licence : Licence) (who : Nat) (before after : Service) : Prop where
  keyed : before.Keyed → after.Keyed
  calls : ∀ other, other ≠ who → after.call? other = before.call? other
  request : ∀ call, before.call? who = some call →
    ∃ phase, after.call? who = some { call with phase }
  jobs : ∀ other, other ≠ who → after.jobs.entry? other = before.jobs.entry? other
  struck : ∀ printer number, before.listed? printer = some number →
    after.listed? printer = some number ∨ licence.strikes number
  present : after.disk.present = before.disk.present
  staged : ∀ other, other ≠ who →
    after.disk.staged.entry? other = before.disk.staged.entry? other
  counted : before.disk.IsCounted → after.disk.IsCounted
  nextDownload : before.disk.nextDownload ≤ after.disk.nextDownload
  downloads : ∀ number bytes, number < before.disk.nextDownload →
    after.disk.downloads.entry? number = some bytes →
      before.disk.downloads.entry? number = some bytes

/-- No entry comes or goes. -/
structure Frame (licence : Licence) (who : Nat) (before after : Service) : Prop extends
    Local licence who before after where
  nextEntry : after.nextEntry = before.nextEntry
  listed : ∀ printer number, after.listed? printer = some number →
    before.listed? printer = some number
  missing : ∀ number, before.entry? number = none → after.entry? number = none
  entries : ∀ number entry, before.entry? number = some entry →
    ∃ later, after.entry? number = some later ∧ Becomes licence who number entry later
  files : ∀ name, after.disk.content? name = before.disk.content? name ∨ licence.places name

variable {licence : Licence}

theorem Becomes.refl : Becomes licence who number entry entry :=
  ⟨rfl, rfl, fun _ _ held => held, rfl, .inl ⟨rfl, rfl⟩⟩

theorem Becomes.trans {between later : Entry} (first : Becomes licence who number entry between)
    (second : Becomes licence who number between later) :
    Becomes licence who number entry later := by
  refine ⟨second.printer.trans first.printer, second.file.trans first.file, ?_,
    second.line.trans first.line, ?_⟩
  · intro other different held
    exact second.held other different (first.held other different held)
  · rcases second.settled with ⟨marker, current⟩ | settled
    · rw [marker, current]
      exact first.settled
    · exact .inr settled

theorem Local.trans (first : Local licence who before middle)
    (second : Local licence who middle after) : Local licence who before after where
  keyed keyed := second.keyed (first.keyed keyed)
  calls other different := (second.calls other different).trans (first.calls other different)
  request call found := by
    obtain ⟨phase, between⟩ := first.request call found
    obtain ⟨last, later⟩ := second.request _ between
    exact ⟨last, later⟩
  jobs other different := (second.jobs other different).trans (first.jobs other different)
  struck printer number listed := by
    rcases first.struck printer number listed with kept | struck
    · exact second.struck printer number kept
    · exact .inr struck
  present := second.present.trans first.present
  staged other different := (second.staged other different).trans (first.staged other different)
  counted counted := second.counted (first.counted counted)
  nextDownload := Nat.le_trans first.nextDownload second.nextDownload
  downloads number bytes early found :=
    first.downloads number bytes early
      (second.downloads number bytes (Nat.lt_of_lt_of_le early first.nextDownload) found)

theorem call?_enter {request : Request} (new : service.call? who = none) :
    Service.call? { service with calls := service.calls.add who { request } } who =
      some ⟨request, .starting⟩ := by
  have added : Roster.entry? (service.calls.add who { request }) who = _ := Roster.entry_add
  rw [call?] at new ⊢
  rw [added, new]
  simp

namespace Frame

theorem refl : Frame licence who service service where
  keyed keyed := keyed
  calls _ _ := rfl
  request call found := ⟨call.phase, found⟩
  jobs _ _ := rfl
  struck _ _ listed := .inl listed
  present := rfl
  staged _ _ := rfl
  counted counted := counted
  nextDownload := Nat.le_refl _
  downloads _ _ _ found := found
  nextEntry := rfl
  listed _ _ listed := listed
  missing _ missing := missing
  entries _ entry found := ⟨entry, found, .refl⟩
  files _ := .inl rfl

theorem trans (first : Frame licence who before middle) (second : Frame licence who middle after) :
    Frame licence who before after where
  toLocal := first.toLocal.trans second.toLocal
  nextEntry := second.nextEntry.trans first.nextEntry
  listed printer number listed := first.listed printer number (second.listed printer number listed)
  missing number missing := second.missing number (first.missing number missing)
  entries number entry found := by
    obtain ⟨between, known, became⟩ := first.entries number entry found
    obtain ⟨later, present, becomes⟩ := second.entries number between known
    exact ⟨later, present, became.trans becomes⟩
  files name := by
    rcases second.files name with same | placed
    · rw [same]
      exact first.files name
    · exact .inr placed

theorem setPhase : Frame licence who service (service.setPhase who phase) := by
  refine { refl with keyed := ?_, calls := ?_, request := ?_ }
  · intro keyed
    refine ⟨?_, keyed.jobs, keyed.entries, keyed.listing⟩
    have numbers : (service.setPhase who phase).calls.map (·.1) = service.calls.map (·.1) := by
      simp only [Service.setPhase, List.map_map]
      refine List.map_congr_left fun call _ => ?_
      by_cases same : call.1 = who <;> simp [same]
    rw [Roster.Distinct, numbers]
    exact keyed.calls
  · intro other different
    simp [different]
  · intro call found
    exact ⟨phase, call?_setPhase_self found⟩

theorem enter {request : Request} (new : service.call? who = none) :
    Frame licence who service { service with calls := service.calls.add who { request } } := by
  refine { refl with keyed := ?_, calls := ?_, request := ?_ }
  · intro keyed
    exact ⟨keyed.calls.add new, keyed.jobs, keyed.entries, keyed.listing⟩
  · intro other different
    change Roster.entry? (service.calls.add who { request }) other = _
    rw [Roster.entry_add, if_neg different, Option.or_none]
    rfl
  · intro call found
    rw [new] at found
    contradiction

theorem setEntry {change : Entry → Entry}
    (becomes : ∀ entry, service.entry? number = some entry →
      Becomes licence who number entry (change entry)) :
    Frame licence who service (service.setEntry number change) := by
  refine { refl with keyed := ?_, missing := ?_, entries := ?_ }
  · intro keyed
    refine ⟨keyed.calls, keyed.jobs, ?_, keyed.listing⟩
    have numbers : (Service.setEntry service number change).entries.map (·.1) =
        service.entries.map (·.1) := by
      simp only [Service.setEntry, List.map_map]
      refine List.map_congr_left fun entry _ => ?_
      by_cases same : entry.1 = number <;> simp [same]
    rw [Roster.Distinct, numbers]
    exact keyed.entries
  · intro other missing
    by_cases same : other = number
    · subst same
      simp [missing]
    · simp [same, missing]
  · intro other entry found
    by_cases same : other = number
    · subst same
      exact ⟨change entry, by simp [found], becomes entry found⟩
    · exact ⟨entry, by simp [same, found], .refl⟩

theorem enqueue : Frame licence who service (service.enqueue who number) := by
  apply setEntry
  intro entry _
  refine ⟨rfl, rfl, ?_, by simp, .inl ⟨rfl, rfl⟩⟩
  intro other _ held
  simp only [Entry.isHeldBy, decide_eq_true_eq] at held ⊢
  simp [List.head?_append, held]

theorem unlock : Frame licence who service (service.unlock who number) := by
  apply setEntry
  intro entry _
  refine ⟨rfl, rfl, ?_, by simp, .inl ⟨rfl, rfl⟩⟩
  intro other different held
  simp only [Entry.isHeldBy, decide_eq_true_eq] at held ⊢
  obtain ⟨rest, line⟩ := List.head?_eq_some_iff.mp held
  rw [line, List.filter_cons_of_pos (by simpa using different)]
  rfl

theorem unlockAll (entries : List Nat) :
    Frame licence who service
      (entries.foldl (fun service number => service.unlock who number) service) := by
  induction entries generalizing service with
  | nil => exact refl
  | cons number entries ih => exact unlock.trans ih

theorem settle {marker : Option String} {edition : Edition}
    (licensed : licence.settles number marker edition) :
    Frame licence who service
      (service.setEntry number fun entry => { entry with marker, current := some edition }) := by
  apply setEntry
  intro entry _
  exact ⟨rfl, rfl, fun _ _ held => held, rfl, .inr ⟨edition, licensed, rfl⟩⟩

theorem addJob (idle : service.jobs.entry? who = none) :
    Frame licence who service (service.addJob who job) := by
  refine { refl with keyed := ?_, jobs := ?_ }
  · intro keyed
    exact ⟨keyed.calls, keyed.jobs.add idle, keyed.entries, keyed.listing⟩
  · intro other different
    change Roster.entry? (service.jobs.add who job) other = _
    simp [Roster.entry_add, different]

theorem setJob : Frame licence who service (service.setJob who job) := by
  refine { refl with keyed := ?_, jobs := ?_ }
  · intro keyed
    exact ⟨keyed.calls, keyed.jobs.update, keyed.entries, keyed.listing⟩
  · intro other different
    change Roster.entry? (service.jobs.update who job) other = _
    simp [Roster.entry_update, different]

theorem endJob : Frame licence who service (service.endJob who) := by
  refine { refl with keyed := ?_, jobs := ?_ }
  · intro keyed
    exact ⟨keyed.calls, keyed.jobs.remove, keyed.entries, keyed.listing⟩
  · intro other different
    change Roster.entry? (service.jobs.remove who) other = _
    simp [Roster.entry_remove, different]

theorem relist {listing : List (String × Nat)} (sub : listing.Sublist service.listing)
    (listed : ∀ printer number, listing.lookup printer = some number →
      service.listed? printer = some number)
    (struck : ∀ printer number, service.listed? printer = some number →
      listing.lookup printer = some number ∨ licence.strikes number) :
    Frame licence who service { service with listing } :=
  { (refl : Frame licence who service service) with
    keyed := fun keyed =>
      ⟨keyed.calls, keyed.jobs, keyed.entries, keyed.listing.sublist (sub.map _)⟩
    listed
    struck }

theorem strike (licensed : ∀ number, service.listed? printer = some number →
      licence.strikes number) :
    Frame licence who service (service.strike printer) := by
  refine relist List.filter_sublist ?_ ?_
  · intro other number listed
    change (service.strike printer).listed? other = some number at listed
    rw [listed?_strike] at listed
    split at listed
    · contradiction
    · exact listed
  · intro other number listed
    change (service.strike printer).listed? other = some number ∨ _
    rw [listed?_strike]
    split
    · rename_i same
      exact .inr (licensed number (same ▸ listed))
    · exact .inl listed

theorem withPool {pool : Pool} : Frame licence who service { service with pool } :=
  { (refl : Frame licence who service service) with
    keyed := fun keyed => ⟨keyed.calls, keyed.jobs, keyed.entries, keyed.listing⟩ }

theorem withDisk (present : disk.present = service.disk.present)
    (files : ∀ name, disk.content? name = service.disk.content? name ∨ licence.places name)
    (staged : ∀ other, other ≠ who →
      disk.staged.entry? other = service.disk.staged.entry? other)
    (counted : service.disk.IsCounted → disk.IsCounted)
    (nextDownload : service.disk.nextDownload ≤ disk.nextDownload)
    (downloads : ∀ number bytes, number < service.disk.nextDownload →
      disk.downloads.entry? number = some bytes →
        service.disk.downloads.entry? number = some bytes) :
    Frame licence who service { service with disk } :=
  { (refl : Frame licence who service service) with
    keyed := fun keyed => ⟨keyed.calls, keyed.jobs, keyed.entries, keyed.listing⟩
    present, files, staged, counted, nextDownload, downloads }

theorem withStaged {staged : Roster (List UInt8)}
    (others : ∀ other, other ≠ who → staged.entry? other = service.disk.staged.entry? other) :
    Frame licence who service { service with disk := { service.disk with staged } } :=
  withDisk rfl (fun _ => .inl rfl) others id (Nat.le_refl _) fun _ _ _ found => found

theorem unstage : Frame licence who service { service with disk := service.disk.unstage who } := by
  apply withStaged
  intro other different
  simp [Roster.entry_remove, different]

theorem prepare {download : Nat} {target : FileName} {progress next : Replacement}
    (prepared : Prepares service.disk who download target progress disk next) :
    Frame licence who service { service with disk } := by
  cases prepared with
  | read | unread | unstaged => exact refl
  | stage staged =>
      obtain rfl := Disk.stage_inv staged
      apply withStaged
      intro other different
      simp [Roster.entry_add, different]
  | append appended =>
      obtain ⟨same, -, others⟩ := Disk.append_inv appended
      rw [same]
      exact withStaged others
  | unwritten | unplaced => exact unstage

theorem place {target : FileName} {fault : Option Fault}
    (replaced : service.disk.replace who target fault = .ok disk) (licensed : licence.places target) :
    Frame licence who service { service with disk } := by
  obtain ⟨_, -, -, contents⟩ := Disk.content?_replace replaced
  obtain ⟨bytes, -, rfl⟩ := Disk.replace_inv replaced
  refine withDisk rfl ?_ ?_ id (Nat.le_refl _) fun _ _ _ found => found
  · intro name
    rw [contents]
    split
    · rename_i same
      exact .inr (same ▸ licensed)
    · exact .inl rfl
  · intro other different
    change Roster.entry? (service.disk.staged.remove who) other = _
    simp [Roster.entry_remove, different]

theorem removeDownload {download : Nat} :
    Frame licence who service { service with disk := service.disk.removeDownload download } := by
  refine withDisk rfl (fun _ => .inl rfl) (fun _ _ => rfl) (·.removeDownload download)
    (Nat.le_refl _) ?_
  have spared : service.disk.Spares False who (fun _ => False) _ :=
    Disk.spares_removeDownload who _ service.disk download
  exact spared.downloads

theorem download {bytes : List UInt8} :
    Frame licence who service { service with disk := service.disk.download bytes } := by
  refine withDisk rfl (fun _ => .inl rfl) (fun _ _ => rfl) (·.download bytes) (Nat.le_succ _) ?_
  have spared : service.disk.Spares False who (fun _ => False) _ :=
    Disk.spares_download who _ service.disk bytes
  exact spared.downloads

theorem receive {reply : PpdReply (List UInt8)} {taken : PpdReply Nat}
    (received : service.receive reply = (after, taken)) : Frame licence who service after := by
  cases reply with
  | unchanged =>
      obtain ⟨rfl, -⟩ := Prod.mk.inj received
      exact refl
  | document bytes marker =>
      obtain ⟨rfl, -⟩ := Prod.mk.inj received
      exact download

theorem receiveAny {reply : Reply (List UInt8)} {taken : Reply Nat}
    (received : service.receiveAny reply = (after, taken)) : Frame licence who service after := by
  cases reply with
  | ppd reply =>
      obtain ⟨rfl, -⟩ := Prod.mk.inj received
      exact receive rfl
  | printers _ | attributes _ =>
      obtain ⟨rfl, -⟩ := Prod.mk.inj received
      exact refl

theorem deliver {outcome : Except Error Edition} :
    Frame licence who service (service.deliver who outcome) := by
  unfold Service.deliver
  split
  · exact setPhase
  · exact refl

theorem acknowledge : Frame licence who service (service.acknowledge who) := by
  unfold Service.acknowledge
  split
  · exact setPhase
  · exact refl

end Frame

/-- A refresh of a printer without an entry makes one and is the first in line
for it. -/
structure Creates (before after : Service) (who number : Nat) (printer : String) : Prop where
  next : number = before.nextEntry
  counted : after.nextEntry = number + 1
  asked : before.call? who = some ⟨.refresh printer, .starting⟩
  unlisted : before.listed? printer = none
  queued : after.call? who = some ⟨.refresh printer, .queued number⟩
  listed : after.listed? printer = some number
  known : after.entry? number =
    some { printer, file := ⟨stemOf printer, number⟩, line := [who] }
  content : after.disk.content? ⟨stemOf printer, number⟩ =
    (before.disk.content? ⟨stemOf printer, number⟩).or (some [])

/-- An entry is gone with its file, because nothing refers to it. -/
structure Drops (after : Service) (number : Nat) (file : FileName) : Prop where
  missing : after.entry? number = none
  loose : ¬ after.Refers number
  empty : after.disk.content? file = none

structure Course (licence : Licence) (who : Nat) (before after : Service) : Prop extends
    Local licence who before after where
  nextEntry : before.nextEntry ≤ after.nextEntry
  listed : ∀ printer number, after.listed? printer = some number →
    before.listed? printer = some number ∨ Creates before after who number printer
  fresh : ∀ number entry, before.entry? number = none → after.entry? number = some entry →
    Creates before after who number entry.printer
  entries : ∀ number entry, before.entry? number = some entry →
    (∃ later, after.entry? number = some later ∧ Becomes licence who number entry later) ∨
      after.Drops number entry.file
  files : ∀ name, after.disk.content? name = before.disk.content? name ∨ licence.places name ∨
    (∃ printer, Creates before after who name.tag printer ∧ name.stem = stemOf printer) ∨
    ∃ entry, before.entry? name.tag = some entry ∧ entry.file = name ∧ after.Drops name.tag name

theorem Frame.course (frame : Frame licence who before after) : Course licence who before after where
  toLocal := frame.toLocal
  nextEntry := Nat.le_of_eq frame.nextEntry.symm
  listed printer number listed := .inl (frame.listed printer number listed)
  fresh number entry missing found := by
    rw [frame.missing number missing] at found
    contradiction
  entries number entry found := .inl (frame.entries number entry found)
  files name := by
    rcases frame.files name with same | placed
    · exact .inl same
    · exact .inr (.inl placed)

theorem refers_sweep : service.sweep.Refers number ↔ service.Refers number := by
  constructor
  · rintro (listed | ⟨found, handle⟩ | ⟨working, member⟩)
    · exact .listed listed
    · exact .held found handle
    · exact .discarded working member
  · rintro (listed | ⟨found, handle⟩ | ⟨working, member⟩)
    · exact .listed listed
    · exact .held found handle
    · exact .discarded working member

theorem content?_sweep (keyed : service.Keyed) (name : FileName) :
    (service.sweep.disk.content? name = service.disk.content? name ∧
      ∀ number entry, service.entry? number = some entry → entry.file = name →
        service.Refers number) ∨
    (service.sweep.disk.content? name = none ∧
      ∃ number entry, service.entry? number = some entry ∧ entry.file = name ∧
        ¬ service.Refers number) := by
  let lost := service.entries.filter fun entry => !service.isReferenced entry.1
  have deleted : service.sweep.disk = (lost.map fun entry => entry.2.file).foldl Disk.delete
      service.disk := by
    rw [List.foldl_map]
    rfl
  rw [deleted, Disk.content?_deleteAll]
  split
  · rename_i member
    rcases List.mem_map.mp member with ⟨⟨number, entry⟩, gone, same⟩
    obtain ⟨inside, unreferenced⟩ := List.mem_filter.mp gone
    refine .inr ⟨rfl, number, entry, keyed.entries.entry_of_mem inside, same, ?_⟩
    intro refers
    simp [refers.isReferenced] at unreferenced
  · rename_i spared
    refine .inl ⟨rfl, ?_⟩
    intro number entry found file
    by_contra loose
    rw [← keyed.isReferenced_iff, Bool.not_eq_true] at loose
    apply spared
    refine List.mem_map.mpr ⟨(number, entry), ?_, file⟩
    exact List.mem_filter.mpr ⟨Roster.mem_of_entry found, by simp [loose]⟩

theorem Refers.entry?_sweep (refers : service.Refers number) :
    service.sweep.entry? number = service.entry? number := by
  rw [Service.entry?_sweep, if_pos refers.isReferenced]

theorem Keyed.entry?_sweep_none (keyed : service.Keyed) (loose : ¬ service.Refers number) :
    service.sweep.entry? number = none := by
  rw [Service.entry?_sweep, if_neg]
  rwa [keyed.isReferenced_iff]

theorem Keyed.sweep (keyed : service.Keyed) : service.sweep.Keyed :=
  ⟨keyed.calls, keyed.jobs, keyed.entries.sublist (List.filter_sublist.map _), keyed.listing⟩

theorem sweep_disk (service : Service) :
    service.sweep.disk = { service.disk with files := service.sweep.disk.files } := by
  have kept (names : List FileName) (disk : Disk) :
      names.foldl Disk.delete disk = { disk with files := (names.foldl Disk.delete disk).files } := by
    induction names generalizing disk with
    | nil => rfl
    | cons name names ih => exact ih (disk.delete name)
  have deleted : service.sweep.disk =
      ((service.entries.filter fun entry => !service.isReferenced entry.1).map
        fun entry => entry.2.file).foldl Disk.delete service.disk := by
    rw [List.foldl_map]
    rfl
  rw [deleted]
  exact kept _ _

theorem Local.swept (frame : Local licence who before middle) :
    Local licence who before middle.sweep := by
  have disk := sweep_disk middle
  refine
    { frame with
      keyed := ?_, present := ?_, staged := ?_, counted := ?_, nextDownload := ?_
      downloads := ?_ }
  · exact fun keyed => (frame.keyed keyed).sweep
  · rw [disk]
    exact frame.present
  · rw [disk]
    exact frame.staged
  · rw [disk]
    exact frame.counted
  · rw [disk]
    exact frame.nextDownload
  · rw [disk]
    exact frame.downloads

/-- Where nothing has come or gone, a sweep drops what nothing refers to. -/
theorem Frame.swept (frame : Frame licence who before middle) (keyed : before.Keyed)
    (named : before.Named) : Course licence who before middle.sweep := by
  have keyedAfter := frame.keyed keyed
  have drops {number : Nat} {file : FileName} {later : Entry}
      (found : middle.entry? number = some later) (same : later.file = file)
      (loose : ¬ middle.Refers number) : middle.sweep.Drops number file := by
    refine ⟨keyedAfter.entry?_sweep_none loose, ?_, ?_⟩
    · rwa [refers_sweep]
    · rcases content?_sweep keyedAfter file with ⟨-, spared⟩ | ⟨empty, -⟩
      · exact absurd (spared number later found same) loose
      · exact empty
  refine
    { toLocal := frame.toLocal.swept
      nextEntry := Nat.le_of_eq frame.nextEntry.symm
      listed := fun printer number listed => .inl (frame.listed printer number listed)
      fresh := ?_, entries := ?_, files := ?_ }
  · intro number entry missing found
    have gone : middle.sweep.entry? number = none := by
      rw [Service.entry?_sweep, frame.missing number missing, ite_self]
    rw [gone] at found
    contradiction
  · intro number entry found
    obtain ⟨later, known, becomes⟩ := frame.entries number entry found
    by_cases refers : middle.Refers number
    · exact .inl ⟨later, refers.entry?_sweep.trans known, becomes⟩
    · exact .inr (drops known becomes.file refers)
  · intro name
    rcases content?_sweep keyedAfter name with ⟨same, -⟩ | ⟨-, number, later, known, file, loose⟩
    · rw [same]
      rcases frame.files name with same | placed
      · exact .inl same
      · exact .inr (.inl placed)
    · right; right; right
      cases found : before.entry? number with
      | none =>
          rw [frame.missing number found] at known
          contradiction
      | some entry =>
          obtain ⟨same, again, becomes⟩ := frame.entries number entry found
          obtain rfl := Option.some.inj (known.symm.trans again)
          have file' : entry.file = name := becomes.file.symm.trans file
          obtain rfl : name.tag = number := by rw [← file', (named number entry found).1]
          exact ⟨entry, found, file', drops known file loose⟩

theorem listed?_append {item : String × Nat} (printer : String) :
    (service.listing ++ [item]).lookup printer =
      (service.listed? printer).or (if printer = item.1 then some item.2 else none) := by
  rw [List.lookup_append, List.lookup_cons]
  by_cases same : printer = item.1
  · simp [same, listed?]
  · have different : (printer == item.1) = false := by simpa using same
    simp [same, different, listed?]

theorem Named.missing (named : service.Named) : service.entry? service.nextEntry = none := by
  cases found : service.entry? service.nextEntry with
  | none => rfl
  | some entry => exact absurd (named _ entry found).2 (Nat.lt_irrefl _)

/-- The first step of a refresh of a printer that has no entry. -/
theorem create_course {fault : Option Fault} (named : before.Named)
    (asked : before.call? who = some ⟨.refresh printer, .starting⟩)
    (unlisted : before.listed? printer = none)
    (created : before.disk.create ⟨stemOf printer, before.nextEntry⟩ fault = .ok disk) :
    Course licence who before
      ({ before with
        disk
        listing := before.listing ++ [(printer, before.nextEntry)]
        entries := before.entries.add before.nextEntry
          { printer, file := ⟨stemOf printer, before.nextEntry⟩ }
        nextEntry := before.nextEntry + 1 }.awaitLock who before.nextEntry) := by
  let grown : Service := { before with
    disk
    listing := before.listing ++ [(printer, before.nextEntry)]
    entries := before.entries.add before.nextEntry
      { printer, file := ⟨stemOf printer, before.nextEntry⟩ }
    nextEntry := before.nextEntry + 1 }
  let after := grown.awaitLock who before.nextEntry
  have queue : Frame licence who grown after := Frame.enqueue.trans .setPhase
  have known (number : Nat) : after.entry? number =
      if number = before.nextEntry then
        some { printer, file := ⟨stemOf printer, before.nextEntry⟩, line := [who] }
      else before.entry? number := by
    have added : grown.entry? number = _ := Roster.entry_add
    change Service.entry? (grown.enqueue who before.nextEntry) number = _
    rw [enqueue, entry?_setEntry]
    by_cases same : number = before.nextEntry
    · subst same
      change _ = (Roster.entry? before.entries _).or _ at added
      have missing := named.missing
      unfold Service.entry? at missing
      rw [missing, if_pos rfl] at added
      simp [added]
    · rw [if_neg same, if_neg same, added, if_neg same, Option.or_none]
      rfl
  have listed (other : String) : after.listed? other =
      (before.listed? other).or (if other = printer then some before.nextEntry else none) :=
    listed?_append other
  have contents (other : FileName) : after.disk.content? other = _ :=
    @Disk.content?_create _ _ _ other _ created
  have creates : Creates before after who before.nextEntry printer := by
    refine ⟨rfl, rfl, asked, unlisted, ?_, ?_, ?_, ?_⟩
    · exact call?_setPhase_self asked
    · simp [listed, unlisted]
    · simp [known]
    · rw [contents, if_pos rfl]
  obtain grew := Disk.create_inv created
  refine
    { keyed := ?_, calls := queue.calls, request := queue.request, jobs := queue.jobs
      struck := ?_, present := ?_, staged := ?_, counted := ?_, nextDownload := ?_
      downloads := ?_, nextEntry := Nat.le_succ _, listed := ?_, fresh := ?_, entries := ?_
      files := ?_ }
  · intro keyed
    refine queue.keyed ⟨keyed.calls, keyed.jobs, keyed.entries.add named.missing, ?_⟩
    rw [List.map_append]
    refine List.nodup_append.mpr ⟨keyed.listing, List.nodup_singleton _, ?_⟩
    intro left inside right single same
    obtain rfl : right = printer := List.mem_singleton.mp single
    obtain ⟨item, member, rfl⟩ := List.mem_map.mp inside
    have absent := List.lookup_eq_none_iff.mp unlisted item member
    simp [same] at absent
  · intro other number kept
    exact .inl (by rw [listed, kept]; rfl)
  · rw [grew]
    rfl
  · intro other _
    rw [grew]
    rfl
  · rw [grew]
    exact id
  · rw [grew]
    exact Nat.le_refl _
  · rw [grew]
    exact fun _ _ _ found => found
  · intro other number kept
    rw [listed] at kept
    cases old : before.listed? other with
    | some known =>
        rw [old] at kept
        exact .inl kept
    | none =>
        rw [old, Option.none_or] at kept
        split at kept
        · rename_i same
          obtain rfl := Option.some.inj kept
          rw [same]
          exact .inr creates
        · contradiction
  · intro number entry missing found
    rw [known] at found
    split at found
    · rename_i same
      obtain rfl := Option.some.inj found
      rw [same]
      exact creates
    · rw [missing] at found
      contradiction
  · intro number entry found
    refine .inl ⟨entry, ?_, .refl⟩
    rw [known, if_neg (Nat.ne_of_lt (named number entry found).2)]
    exact found
  · intro name
    by_cases same : name = ⟨stemOf printer, before.nextEntry⟩
    · right; right; left
      rw [same]
      exact ⟨printer, creates, rfl⟩
    · left
      rw [contents, if_neg same, Option.or_none]

end PrintConnector.Service
