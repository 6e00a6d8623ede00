import PrintConnector.Proofs.Cache.Copy
import PrintConnector.Proofs.Cache.Disk
import PrintConnector.Proofs.Pool.Exchange
import PrintConnector.Service.Step

/-! What is true of the service between any two steps.

The file of an entry changes before its other fields do.  In between, the call
that changes them holds the lock of the entry, and what it is about to put into
the fields belongs to what the file already holds.
-/

namespace PrintConnector.Service

open Cache (Disk Edition Entry FileName stemOf)

/-- The server answered a call with a document. -/
def Came (history : List Event) (who : Nat) (bytes : List UInt8) (marker : Option String) : Prop :=
  .answered who (.ok (.ppd (.document bytes marker))) ∈ history

/-- The server answered a refresh of a printer with a document. -/
def Sent (history : List Event) (printer : String) (who : Nat) (bytes : List UInt8)
    (marker : Option String) : Prop :=
  .call who (.refresh printer) ∈ history ∧ Came history who bytes marker

/-- The directory of the cache was removed. -/
def Removed (history : List Event) : Prop :=
  .removeDirectory ∈ history

/-- A call holds the lock of the entry of a printer. -/
def Holds (service : Service) (who number : Nat) (printer : String) : Prop :=
  ∃ entry, service.entry? number = some entry ∧ entry.isHeldBy who = true ∧
    entry.printer = printer

/-- The entry whose lock a call has to hold. -/
def Phase.grip? : Phase → Option Nat
  | .fetching entry _ => some entry
  | .replacing entry _ => some entry
  | .replaced entry _ _ => some entry
  | .failed entry _ => some entry
  | .unlisted entry _ => some entry
  | _ => none

/-- An edition is of a document that the server has sent. -/
def Genuine (history : List Event) (edition : Edition) : Prop :=
  ∃ printer who bytes marker, Sent history printer who bytes marker ∧ edition.IsOf bytes

/-- What is given out of a document is genuine. -/
def ResultSound (history : List Event) : Result → Prop
  | .refreshed (.ok snapshot) => Genuine history snapshot.edition
  | .cached (some snapshot) => Genuine history snapshot.edition
  | _ => True

/-- A download, if it is still there, came with a marker in answer to a call. -/
def Traceable (history : List Event) (disk : Disk) (who download : Nat)
    (marker : Option String) : Prop :=
  download < disk.nextDownload ∧
    ∀ bytes, disk.downloads.entry? download = some bytes → Came history who bytes marker

/-- An edition is of the document that a file holds. -/
def Fresh (history : List Event) (disk : Disk) (who : Nat) (marker : Option String)
    (name : FileName) (edition : Edition) : Prop :=
  ∃ bytes, Came history who bytes marker ∧ edition.IsOf bytes ∧
    disk.Stores (Removed history) name bytes

/-- What a replacement has read came in answer to its call. -/
def ProgressSound (history : List Event) (disk : Disk) (who : Nat) (marker : Option String)
    (name : FileName) (download : Nat) : Replacement → Prop
  | .opening => Traceable history disk who download marker
  | .staging bytes => Came history who bytes marker
  | .copying rest copy => copy.IsSound ∧ Came history who (copy.contents ++ rest) marker
  | .placing copy => copy.IsSound ∧ Came history who copy.contents marker
  | .cleaning (.ok edition) => Fresh history disk who marker name edition
  | .cleaning (.error _) => True

/-- What a phase carries of a document came in answer to its call. -/
def PhaseSound (history : List Event) (service : Service) (who : Nat) (request : Request) :
    Phase → Prop
  | .fetching _ exchange =>
      ∀ download marker, exchange.reply? = some (.document download marker) →
        Traceable history service.disk who download marker
  | .replacing number marker =>
      ∃ printer download progress, request = .refresh printer ∧
        service.jobs.entry? who = some (.replace download ⟨stemOf printer, number⟩ progress) ∧
        ProgressSound history service.disk who marker ⟨stemOf printer, number⟩ download progress
  | .replaced number marker (.ok edition) =>
      ∃ printer, request = .refresh printer ∧
        Fresh history service.disk who marker ⟨stemOf printer, number⟩ edition
  | .discarding result => ResultSound history result
  | .discarded result => ResultSound history result
  | .finished result => ResultSound history result
  | _ => True

structure CallSound (history : List Event) (service : Service) (who : Nat) (call : Call) :
    Prop where
  asked : .call who call.request ∈ history
  held : ∀ number, call.phase.grip? = some number →
    ∃ printer, call.request = .refresh printer ∧ service.Holds who number printer
  sound : PhaseSound history service who call.request call.phase

/-- A call has changed the file of an entry and not yet its other fields. -/
def Renews (service : Service) (who number : Nat) : Prop :=
  (∃ marker edition, service.phase? who = some (.replaced number marker (.ok edition))) ∨
    ∃ marker download name edition, service.phase? who = some (.replacing number marker) ∧
      service.jobs.entry? who = some (.replace download name (.cleaning (.ok edition)))

/-- An entry is of a document that its file holds, unless a call is about to
change it. -/
def EntrySound (history : List Event) (service : Service) (number : Nat) (entry : Entry) : Prop :=
  ∀ edition, entry.current = some edition →
    ∃ who bytes, Sent history entry.printer who bytes entry.marker ∧ edition.IsOf bytes ∧
      (service.disk.Stores (Removed history) entry.file bytes ∨
        ∃ other, service.Renews other number)

/-- A call waits for its job. -/
def JobFits : Job → Option Phase → Prop
  | .replace .., some (.replacing ..) => True
  | .discard _, some (.discarding _) => True
  | _, _ => False

/-- A job has some bytes in its staging file. -/
def Job.Stages : Job → List UInt8 → Prop
  | .replace _ _ (.copying _ copy), bytes => bytes = copy.contents
  | .replace _ _ (.placing copy), bytes => bytes = copy.contents
  | _, _ => False

/-- Entries have the printer and the file that they had in an earlier state, or
have come since. -/
structure Follows (service origin : Service) : Prop where
  nextEntry : origin.nextEntry ≤ service.nextEntry
  entries : ∀ number entry, number < origin.nextEntry → service.entry? number = some entry →
    ∃ old, origin.entry? number = some old ∧ entry.printer = old.printer ∧ entry.file = old.file

structure Consistent (origin : Service) (history : List Event) (service : Service) : Prop where
  follows : service.Follows origin
  named : ∀ item ∈ service.entries,
    item.2.file = ⟨stemOf item.2.printer, item.1⟩ ∧ item.1 < service.nextEntry
  listed : ∀ item ∈ service.listing, item.2 < service.nextEntry ∧
    ∀ entry, service.entry? item.2 = some entry → entry.printer = item.1
  counted : service.disk.IsCounted
  calls : ∀ who call, service.call? who = some call → CallSound history service who call
  jobs : ∀ who job, service.jobs.entry? who = some job → JobFits job (service.phase? who)
  staged : ∀ who bytes, service.disk.staged.entry? who = some bytes →
    ∃ job, service.jobs.entry? who = some job ∧ job.Stages bytes
  entries : ∀ number entry, service.entry? number = some entry →
    EntrySound history service number entry

variable {history : List Event} {origin before after service : Service} {who number download : Nat}
  {marker : Option String} {name : FileName} {edition : Edition} {phase : Phase}
  {request : Request} {touched : FileName → Prop}

theorem Traceable.spares {old new : Disk} {other : Nat}
    (traceable : Traceable history old who download marker)
    (spared : old.Spares (Removed history) other touched new) :
    Traceable history new who download marker := by
  obtain ⟨earlier, came⟩ := traceable
  refine ⟨Nat.lt_of_lt_of_le earlier spared.next, ?_⟩
  intro bytes found
  exact came bytes (spared.downloads download bytes earlier found)

theorem Fresh.spares {old new : Disk} {other : Nat} (fresh : Fresh history old who marker name edition)
    (spared : old.Spares (Removed history) other touched new) (untouched : ¬ touched name) :
    Fresh history new who marker name edition := by
  obtain ⟨bytes, came, isOf, stored⟩ := fresh
  exact ⟨bytes, came, isOf, spared.files name bytes untouched stored⟩

theorem ProgressSound.spares {old new : Disk} {other : Nat} {progress : Replacement}
    (sound : ProgressSound history old who marker name download progress)
    (spared : old.Spares (Removed history) other touched new) (untouched : ¬ touched name) :
    ProgressSound history new who marker name download progress := by
  cases progress with
  | opening => exact Traceable.spares sound spared
  | staging bytes => exact sound
  | copying rest copy => exact sound
  | placing copy => exact sound
  | cleaning outcome =>
      cases outcome with
      | error error => trivial
      | ok edition => exact Fresh.spares sound spared untouched

theorem PhaseSound.transport {other : Nat} (sound : PhaseSound history before who request phase)
    (jobs : after.jobs.entry? who = before.jobs.entry? who)
    (spared : before.disk.Spares (Removed history) other touched after.disk)
    (untouched : ∀ number printer, phase.grip? = some number → request = .refresh printer →
      ¬ touched ⟨stemOf printer, number⟩) :
    PhaseSound history after who request phase := by
  cases phase with
  | fetching number exchange =>
      intro download marker known
      exact (sound download marker known).spares spared
  | replacing number marker =>
      obtain ⟨printer, download, progress, refreshes, found, progressed⟩ := sound
      exact ⟨printer, download, progress, refreshes, jobs.trans found,
        progressed.spares spared (untouched number printer rfl refreshes)⟩
  | replaced number marker outcome =>
      cases outcome with
      | error error => trivial
      | ok edition =>
          obtain ⟨printer, refreshes, fresh⟩ := sound
          exact ⟨printer, refreshes, fresh.spares spared (untouched number printer rfl refreshes)⟩
  | discarding result | discarded result | finished result => exact sound
  | starting | queued _ | failed _ _ | unlisted _ _ | sealing | asking _ _ => trivial

theorem EntrySound.transport {entry : Entry} (sound : EntrySound history before number entry)
    (stores : ∀ bytes, before.disk.Stores (Removed history) entry.file bytes →
      after.disk.Stores (Removed history) entry.file bytes)
    (renews : ∀ other, before.Renews other number → after.Renews other number) :
    EntrySound history after number entry := by
  intro edition current
  obtain ⟨who, bytes, sent, isOf, stored | ⟨other, renewing⟩⟩ := sound edition current
  · exact ⟨who, bytes, sent, isOf, .inl (stores bytes stored)⟩
  · exact ⟨who, bytes, sent, isOf, .inr ⟨other, renews other renewing⟩⟩

/-- A sound entry may be about to change. -/
theorem EntrySound.renewing {entry : Entry} (sound : EntrySound history before number entry)
    (renews : after.Renews who number) : EntrySound history after number entry := by
  intro edition current
  obtain ⟨sender, bytes, sent, isOf, -⟩ := sound edition current
  exact ⟨sender, bytes, sent, isOf, .inr ⟨who, renews⟩⟩

theorem phase?_of_call? {call : Call} (found : service.call? who = some call) :
    service.phase? who = some call.phase :=
  congrArg (Option.map Call.phase) found

theorem call?_of_phase? (found : service.phase? who = some phase) :
    ∃ call, service.call? who = some call ∧ call.phase = phase :=
  Option.map_eq_some_iff.mp found

theorem Holds.unique {other : Nat} {printer otherPrinter : String}
    (holds : service.Holds who number printer)
    (others : service.Holds other number otherPrinter) : other = who := by
  obtain ⟨entry, found, held, -⟩ := holds
  obtain ⟨same, foundAgain, heldToo, -⟩ := others
  obtain rfl := Option.some.inj (found.symm.trans foundAgain)
  unfold Entry.isHeldBy at held heldToo
  rw [decide_eq_true_iff] at held heldToo
  exact Option.some.inj (heldToo.symm.trans held)

theorem grip_of_renews (renews : service.Renews who number) :
    ∃ call, service.call? who = some call ∧ call.phase.grip? = some number := by
  obtain ⟨marker, edition, phase⟩ | ⟨marker, download, name, edition, phase, -⟩ := renews
  · obtain ⟨call, found, doing⟩ := call?_of_phase? phase
    exact ⟨call, found, by rw [doing]; rfl⟩
  · obtain ⟨call, found, doing⟩ := call?_of_phase? phase
    exact ⟨call, found, by rw [doing]; rfl⟩

namespace Consistent

/-- A call that changes the file of an entry holds its lock. -/
theorem holds_of_renews (consistent : Consistent origin history service)
    (renews : service.Renews who number) :
    ∃ printer, service.Holds who number printer := by
  obtain ⟨call, found, grip⟩ := grip_of_renews renews
  obtain ⟨printer, -, holds⟩ := (consistent.calls who call found).held number grip
  exact ⟨printer, holds⟩

end Consistent

/-- What is done for one call changes nothing for the others. -/
structure Spares (history : List Event) (who : Nat) (touched : FileName → Prop)
    (before after : Service) : Prop where
  entries : after.entries = before.entries
  listing : after.listing = before.listing
  nextEntry : after.nextEntry = before.nextEntry
  calls : ∀ other, other ≠ who → after.call? other = before.call? other
  jobs : ∀ other, other ≠ who → after.jobs.entry? other = before.jobs.entry? other
  disk : before.disk.Spares (Removed history) who touched after.disk

namespace Spares

theorem entry? (spared : before.Spares history who touched after) (number : Nat) :
    after.entry? number = before.entry? number :=
  congrArg (Roster.entry? · number) spared.entries

theorem holds {other : Nat} {printer : String} (spared : before.Spares history who touched after)
    (holds : before.Holds other number printer) : after.Holds other number printer := by
  obtain ⟨entry, found, rest⟩ := holds
  exact ⟨entry, (spared.entry? number).trans found, rest⟩

theorem phase? {other : Nat} (spared : before.Spares history who touched after)
    (different : other ≠ who) : after.phase? other = before.phase? other :=
  congrArg (Option.map Call.phase) (spared.calls other different)

theorem renews {other : Nat} (spared : before.Spares history who touched after)
    (different : other ≠ who) (renews : before.Renews other number) : after.Renews other number := by
  rw [Renews, spared.phase? different, spared.jobs other different]
  exact renews

end Spares

/-- What is done for one call keeps the service consistent if it is right for
that call and for the entry that it holds. -/
theorem Consistent.act (consistent : Consistent origin history before)
    (spared : before.Spares history who touched after) (counted : after.disk.IsCounted)
    (own : ∀ call, after.call? who = some call → CallSound history after who call)
    (jobs : ∀ job, after.jobs.entry? who = some job → JobFits job (after.phase? who))
    (staged : ∀ bytes, after.disk.staged.entry? who = some bytes →
      ∃ job, after.jobs.entry? who = some job ∧ job.Stages bytes)
    (free : ∀ other number printer, other ≠ who → before.Holds other number printer →
      ¬ touched ⟨stemOf printer, number⟩)
    (kept : ∀ number entry, before.entry? number = some entry →
      before.Renews who number ∨ touched entry.file → EntrySound history after number entry) :
    Consistent origin history after where
  follows := by
    obtain ⟨nextEntry, entries⟩ := consistent.follows
    refine ⟨by rw [spared.nextEntry]; exact nextEntry, ?_⟩
    intro number entry early found
    exact entries number entry early ((spared.entry? number).symm.trans found)
  named := by
    rw [spared.entries, spared.nextEntry]
    exact consistent.named
  listed := by
    intro item member
    rw [spared.listing] at member
    rw [spared.nextEntry, spared.entry? item.2]
    exact consistent.listed item member
  counted := counted
  calls := by
    intro other call found
    by_cases same : other = who
    · subst same
      exact own call found
    · rw [spared.calls other same] at found
      obtain ⟨asked, held, sound⟩ := consistent.calls other call found
      refine ⟨asked, ?_, ?_⟩
      · intro number grip
        obtain ⟨printer, refreshes, holds⟩ := held number grip
        exact ⟨printer, refreshes, spared.holds holds⟩
      · refine sound.transport (spared.jobs other same) spared.disk ?_
        intro number printer grip refreshes
        obtain ⟨known, asks, holds⟩ := held number grip
        obtain rfl : known = printer := by
          rw [refreshes] at asks
          exact (Request.refresh.inj asks).symm
        exact free other number known same holds
  jobs := by
    intro other job found
    by_cases same : other = who
    · subst same
      exact jobs job found
    · rw [spared.jobs other same] at found
      rw [spared.phase? same]
      exact consistent.jobs other job found
  staged := by
    intro other bytes found
    by_cases same : other = who
    · subst same
      exact staged bytes found
    · obtain ⟨job, known, stages⟩ :=
        consistent.staged other bytes (spared.disk.staged other bytes same found)
      exact ⟨job, (spared.jobs other same).trans known, stages⟩
  entries := by
    intro number entry found
    rw [spared.entry? number] at found
    by_cases own : before.Renews who number ∨ touched entry.file
    · exact kept number entry found own
    · obtain ⟨notRenewing, untouched⟩ := not_or.mp own
      refine (consistent.entries number entry found).transport ?_ ?_
      · intro bytes stored
        exact spared.disk.files entry.file bytes untouched stored
      · intro other renews
        by_cases same : other = who
        · subst same
          exact absurd renews notRenewing
        · exact spared.renews same renews

end PrintConnector.Service
