import PrintConnector.Proofs.Service.Phase

namespace PrintConnector.Service

open Cache (Disk Edition Entry Fault FileName stemOf)

variable {history : List Event} {origin after service : Service} {who number : Nat}
  {disk : Disk} {call : Call} {result : Result} {printer : String} {fault : Option Fault}

@[simp] theorem entry?_setEntry {change : Entry → Entry} {other : Nat} :
    Service.entry? (service.setEntry number change) other =
      if other = number then (service.entry? number).map change else service.entry? other :=
  Roster.entry_change change

/-- An entry changes but keeps its printer, its file and the head of its line. -/
theorem Consistent.setEntry {change : Entry → Entry}
    (consistent : Consistent origin history service)
    (printer : ∀ entry, (change entry).printer = entry.printer)
    (file : ∀ entry, (change entry).file = entry.file)
    (held : ∀ other call entry, service.call? other = some call →
      call.phase.grip? = some number → entry.isHeldBy other = true →
      (change entry).isHeldBy other = true)
    (sound : ∀ entry, service.entry? number = some entry →
      EntrySound history service number (change entry)) :
    Consistent origin history (service.setEntry number change) := by
  have origins {other : Nat} {entry : Entry}
      (found : Service.entry? (service.setEntry number change) other = some entry) :
      ∃ old, service.entry? other = some old ∧ entry.printer = old.printer ∧
        entry.file = old.file := by
    rw [entry?_setEntry] at found
    split at found
    · rename_i same
      obtain ⟨old, known, rfl⟩ := Option.map_eq_some_iff.mp found
      rw [same]
      exact ⟨old, known, printer old, file old⟩
    · exact ⟨entry, found, rfl, rfl⟩
  refine
    { follows := ?_, named := ?_, listed := ?_, counted := consistent.counted, calls := ?_,
      jobs := consistent.jobs, staged := consistent.staged, entries := ?_ }
  · refine ⟨consistent.follows.nextEntry, ?_⟩
    intro other entry early found
    obtain ⟨between, known, samePrinter, sameFile⟩ := origins found
    obtain ⟨old, first, printer, file⟩ :=
      consistent.follows.entries other between early known
    exact ⟨old, first, samePrinter.trans printer, sameFile.trans file⟩
  · intro item member
    obtain ⟨old, inside, rfl⟩ := List.mem_map.mp member
    have named := consistent.named old inside
    split
    · rename_i same
      rw [file, printer, ← same]
      exact named
    · exact named
  · intro item member
    obtain ⟨early, printers⟩ := consistent.listed item member
    refine ⟨early, ?_⟩
    intro entry found
    obtain ⟨old, known, samePrinter, -⟩ := origins found
    exact samePrinter.trans (printers old known)
  · intro who call found
    obtain ⟨asked, holding, sound⟩ := consistent.calls who call found
    refine ⟨asked, ?_, sound⟩
    intro other grip
    obtain ⟨asks, refreshes, entry, known, first, named⟩ := holding other grip
    refine ⟨asks, refreshes, ?_⟩
    by_cases same : other = number
    · subst same
      refine ⟨change entry, ?_, held who call entry found grip first, (printer entry).trans named⟩
      rw [entry?_setEntry, if_pos rfl, known]
      rfl
    · refine ⟨entry, ?_, first, named⟩
      rw [entry?_setEntry, if_neg same]
      exact known
  · intro other entry found
    rw [entry?_setEntry] at found
    split at found
    · rename_i same
      obtain ⟨old, known, rfl⟩ := Option.map_eq_some_iff.mp found
      rw [same]
      exact sound old known
    · exact consistent.entries other entry found

theorem Consistent.enqueue (consistent : Consistent origin history service) (who number : Nat) :
    Consistent origin history (service.enqueue who number) := by
  refine consistent.setEntry (fun _ => rfl) (fun _ => rfl) ?_ (consistent.entries number)
  intro other call entry _ _ held
  simp only [Entry.isHeldBy, decide_eq_true_eq] at held ⊢
  rw [List.head?_append, held]
  rfl

/-- A call that need not hold the lock of an entry leaves the line for it. -/
theorem Consistent.unlock (consistent : Consistent origin history service)
    (loose : ∀ call, service.call? who = some call → call.phase.grip? ≠ some number) :
    Consistent origin history (service.unlock who number) := by
  refine consistent.setEntry (fun _ => rfl) (fun _ => rfl) ?_ (consistent.entries number)
  intro other call entry found grip held
  have different : other ≠ who := by
    rintro rfl
    exact loose call found grip
  simp only [Entry.isHeldBy, decide_eq_true_eq] at held ⊢
  obtain ⟨rest, line⟩ := List.head?_eq_some_iff.mp held
  rw [line, List.filter_cons_of_pos (by simpa using different)]
  rfl

/-- Printers are struck off the list. -/
theorem Consistent.relist {listing : List (String × Nat)}
    (consistent : Consistent origin history service) (sub : listing ⊆ service.listing) :
    Consistent origin history { service with listing } :=
  { consistent with
    follows := ⟨consistent.follows.nextEntry, consistent.follows.entries⟩
    listed := fun item member => consistent.listed item (sub member)
    calls := fun who call found =>
      have sound := consistent.calls who call found
      ⟨sound.asked, sound.held, sound.sound⟩ }

theorem Consistent.strike (consistent : Consistent origin history service) (printer : String) :
    Consistent origin history (service.strike printer) :=
  consistent.relist (List.filter_subset_self _)

/-- The entry that is listed for a printer is of that printer. -/
theorem Consistent.listed_printer {entry : Entry}
    (consistent : Consistent origin history service)
    (listed : service.listed? printer = some number)
    (found : service.entry? number = some entry) : entry.printer = printer := by
  obtain ⟨front, back, split, -⟩ := List.lookup_eq_some_iff.mp listed
  have member : (printer, number) ∈ service.listing := by simp [split]
  exact (consistent.listed _ member).2 entry found

theorem Consistent.early {entry : Entry} (consistent : Consistent origin history service)
    (found : service.entry? number = some entry) :
    entry.file = ⟨stemOf entry.printer, number⟩ ∧ number < service.nextEntry :=
  consistent.named _ (Roster.mem_of_entry found)

/-- A printer gets an entry that holds nothing. -/
theorem Consistent.create (consistent : Consistent origin history service)
    (created : service.disk.create ⟨stemOf printer, service.nextEntry⟩ fault = .ok disk) :
    Consistent origin history
      { service with
        disk
        listing := service.listing ++ [(printer, service.nextEntry)]
        entries := service.entries.add service.nextEntry
          { printer, file := ⟨stemOf printer, service.nextEntry⟩ }
        nextEntry := service.nextEntry + 1 } := by
  obtain ⟨spared, downloads, next, staged⟩ : service.disk.Spares (Removed history) 0 _ disk ∧ _ :=
    Disk.spares_create created
  let first : Entry := { printer, file := ⟨stemOf printer, service.nextEntry⟩ }
  let entries := service.entries.add service.nextEntry first
  have added (number : Nat) : entries.entry? number =
      (service.entry? number).or (if number = service.nextEntry then some first else none) :=
    Roster.entry_add
  have kept {number : Nat} {entry : Entry} (found : service.entry? number = some entry) :
      entries.entry? number = some entry := by
    rw [added, found]
    rfl
  have known {number : Nat} {entry : Entry} (found : entries.entry? number = some entry)
      (early : number < service.nextEntry) : service.entry? number = some entry := by
    rw [added, if_neg (Nat.ne_of_lt early), Option.or_none] at found
    exact found
  have apart {number : Nat} {stem : String} (early : number < service.nextEntry) :
      (⟨stem, number⟩ : FileName) ≠ ⟨stemOf printer, service.nextEntry⟩ := by
    intro same
    exact Nat.ne_of_lt early (congrArg FileName.tag same)
  refine
    { follows := ?_, named := ?_, listed := ?_, counted := ?_, calls := ?_,
      jobs := consistent.jobs, staged := ?_, entries := ?_ }
  · obtain ⟨nextEntry, old⟩ := consistent.follows
    refine ⟨Nat.le_succ_of_le nextEntry, ?_⟩
    intro number entry early found
    exact old number entry early (known found (Nat.lt_of_lt_of_le early nextEntry))
  · intro item member
    obtain inside | same := List.mem_append.mp member
    · obtain ⟨file, early⟩ := consistent.named item inside
      exact ⟨file, Nat.lt_succ_of_lt early⟩
    · obtain rfl := List.mem_singleton.mp same
      exact ⟨rfl, Nat.lt_succ_self _⟩
  · intro item member
    obtain inside | same := List.mem_append.mp member
    · obtain ⟨early, printers⟩ := consistent.listed item inside
      refine ⟨Nat.lt_succ_of_lt early, ?_⟩
      intro entry found
      exact printers entry (known found early)
    · obtain rfl := List.mem_singleton.mp same
      refine ⟨Nat.lt_succ_self _, ?_⟩
      intro entry found
      change entries.entry? service.nextEntry = some entry at found
      cases old : service.entry? service.nextEntry with
      | some other => exact absurd (consistent.early old).2 (Nat.lt_irrefl _)
      | none =>
          rw [added, old, if_pos rfl] at found
          obtain rfl := Option.some.inj found
          rfl
  · change disk.IsCounted
    rw [Disk.IsCounted, downloads, next]
    exact consistent.counted
  · intro who call found
    obtain ⟨asked, held, sound⟩ := consistent.calls who call found
    refine ⟨asked, ?_, sound.transport rfl spared ?_⟩
    · intro number grip
      obtain ⟨asks, refreshes, entry, found, rest⟩ := held number grip
      exact ⟨asks, refreshes, entry, kept found, rest⟩
    · intro number asks grip _
      obtain ⟨_, _, entry, found, _⟩ := held number grip
      exact apart (consistent.early found).2
  · intro who bytes found
    change disk.staged.entry? who = some bytes at found
    rw [staged] at found
    exact consistent.staged who bytes found
  · intro number entry found
    change entries.entry? number = some entry at found
    cases old : service.entry? number with
    | none =>
        rw [added, old] at found
        split at found
        · obtain rfl := Option.some.inj found
          intro edition current
          contradiction
        · contradiction
    | some other =>
        obtain rfl := Option.some.inj ((kept old).symm.trans found)
        obtain ⟨file, early⟩ := consistent.early old
        refine (consistent.entries number other old).transport ?_ (fun _ => id)
        intro bytes stored
        refine spared.files other.file bytes ?_ stored
        rw [file]
        exact apart early

theorem Consistent.findOrCreate (consistent : Consistent origin history service)
    (found : service.findOrCreate printer fault = .ok (after, number)) :
    Consistent origin history after ∧ ∀ who, after.call? who = service.call? who := by
  unfold Service.findOrCreate at found
  split at found
  · obtain ⟨rfl, rfl⟩ := Prod.mk.inj (Except.ok.inj found)
    exact ⟨consistent, fun _ => rfl⟩
  · cases created : service.disk.create ⟨stemOf printer, service.nextEntry⟩ fault with
    | error error =>
        simp only [created] at found
        contradiction
    | ok disk =>
        simp only [created] at found
        obtain ⟨rfl, rfl⟩ := Prod.mk.inj (Except.ok.inj found)
        exact ⟨consistent.create created, fun _ => rfl⟩

theorem isReferenced_of_handle (found : service.call? who = some call)
    (handle : call.phase.handle? = some number) : service.isReferenced number = true := by
  have taken : (service.calls.any fun call => call.2.phase.handle? = some number) = true :=
    List.any_eq_true.mpr ⟨_, Roster.mem_of_entry found, decide_eq_true handle⟩
  rw [isReferenced, taken, Bool.or_true, Bool.true_or]

theorem handle?_of_grip {phase : Phase} (grip : phase.grip? = some number) :
    phase.handle? = some number := by
  cases phase with
  | fetching _ _ | replacing _ _ | replaced _ _ _ | failed _ _ | unlisted _ _ => exact grip
  | _ => contradiction

theorem entry?_sweep :
    service.sweep.entry? number =
      if service.isReferenced number then service.entry? number else none :=
  Roster.entry_filter

theorem Consistent.sweep (consistent : Consistent origin history service) :
    Consistent origin history service.sweep := by
  let lost := service.entries.filter fun entry => !service.isReferenced entry.1
  let names := lost.map fun entry => entry.2.file
  have deleted : service.sweep.disk = names.foldl Disk.delete service.disk := by
    rw [List.foldl_map]
    rfl
  obtain ⟨spared, downloads, next, staged⟩ : service.disk.Spares (Removed history) 0 _ _ ∧ _ :=
    Disk.spares_delete 0 service.disk names
  rw [← deleted] at spared downloads next staged
  have remaining {number : Nat} {entry : Entry}
      (found : service.sweep.entry? number = some entry) :
      service.isReferenced number = true ∧ service.entry? number = some entry := by
    rw [entry?_sweep] at found
    split at found
    · rename_i referenced
      exact ⟨referenced, found⟩
    · contradiction
  have spare {number : Nat} {stem : String} (referenced : service.isReferenced number = true) :
      (⟨stem, number⟩ : FileName) ∉ names := by
    intro member
    obtain ⟨item, gone, same⟩ := List.mem_map.mp member
    obtain ⟨inside, unreferenced⟩ := List.mem_filter.mp gone
    rw [(consistent.named item inside).1] at same
    obtain rfl : item.1 = number := congrArg FileName.tag same
    simp [referenced] at unreferenced
  refine
    { follows := ?_, named := ?_, listed := ?_, counted := ?_, calls := ?_,
      jobs := consistent.jobs, staged := ?_, entries := ?_ }
  · refine ⟨consistent.follows.nextEntry, ?_⟩
    intro number entry early found
    exact consistent.follows.entries number entry early (remaining found).2
  · intro item member
    exact consistent.named item (List.mem_of_mem_filter member)
  · intro item member
    obtain ⟨early, printers⟩ := consistent.listed item member
    exact ⟨early, fun entry found => printers entry (remaining found).2⟩
  · rw [Disk.IsCounted, downloads, next]
    exact consistent.counted
  · intro who call found
    obtain ⟨asked, held, sound⟩ := consistent.calls who call found
    have referenced {number : Nat} (grip : call.phase.grip? = some number) :
        service.isReferenced number = true :=
      isReferenced_of_handle found (handle?_of_grip grip)
    refine ⟨asked, ?_, sound.transport rfl spared (fun _ _ grip _ => spare (referenced grip))⟩
    intro number grip
    obtain ⟨asks, refreshes, entry, known, rest⟩ := held number grip
    refine ⟨asks, refreshes, entry, ?_, rest⟩
    rw [entry?_sweep, if_pos (referenced grip)]
    exact known
  · intro who bytes found
    rw [staged] at found
    exact consistent.staged who bytes found
  · intro number entry found
    obtain ⟨referenced, known⟩ := remaining found
    refine (consistent.entries number entry known).transport ?_ (fun _ => id)
    intro bytes stored
    refine spared.files entry.file bytes ?_ stored
    rw [(consistent.early known).1]
    exact spare referenced

theorem loose_setPhase {phase : Phase} (found : service.call? who = some call)
    (free : phase.grip? ≠ some number) :
    ∀ after, (service.setPhase who phase).call? who = some after →
      after.phase.grip? ≠ some number := by
  intro after known
  obtain rfl := Option.some.inj ((call?_setPhase_self found).symm.trans known)
  exact free

/-- A call without a job ends with a sound result. -/
theorem Consistent.finish (consistent : Consistent origin history service)
    (found : service.call? who = some call) (idle : service.jobs.entry? who = none)
    (sound : ResultSound history result)
    (settled : ∀ number entry, service.Renews who number → service.entry? number = some entry →
      EntrySound history (service.setPhase who (.finished result)) number entry) :
    Consistent origin history (service.finish who result) := by
  have asked := (consistent.calls who call found).asked
  have done : Consistent origin history (service.setPhase who (.finished result)) :=
    consistent.setPhase found idle ⟨asked, nofun, sound⟩ settled
  unfold Service.finish
  split
  · exact (done.unlock (loose_setPhase found nofun)).sweep
  · exact done.sweep

/-- A call that rests ends with a sound result. -/
theorem Consistent.leave (consistent : Consistent origin history service)
    (found : service.call? who = some call) (rests : call.phase.rests = true)
    (sound : ResultSound history result) :
    Consistent origin history (service.finish who result) :=
  consistent.finish found (consistent.idle_of_rests found rests) sound
    fun _ _ renews => absurd renews (not_renews found rests)

end PrintConnector.Service
