import PrintConnector.Proofs.Service.Consistent

namespace PrintConnector.Service

open Cache (Disk Edition FileName)

variable {history longer : List Event} {origin before after service : Service}
  {who number download : Nat} {marker : Option String} {name : FileName} {edition : Edition}
  {disk : Disk} {call : Call} {phase : Phase} {request : Request} {result : Result} {job : Job}
  {printer : String} {bytes : List UInt8}

section Later

theorem Sent.later (sent : Sent history printer who bytes marker) (sub : history ⊆ longer) :
    Sent longer printer who bytes marker :=
  ⟨sub sent.1, sub sent.2⟩

theorem Traceable.later (traceable : Traceable history disk who download marker)
    (sub : history ⊆ longer) : Traceable longer disk who download marker :=
  ⟨traceable.1, fun bytes found => sub (traceable.2 bytes found)⟩

theorem Fresh.later (fresh : Fresh history disk who marker name edition) (sub : history ⊆ longer) :
    Fresh longer disk who marker name edition := by
  obtain ⟨bytes, came, isOf, stored⟩ := fresh
  exact ⟨bytes, sub came, isOf, stored.imp_left fun gone => sub gone⟩

theorem ProgressSound.later {progress : Replacement}
    (sound : ProgressSound history disk who marker name download progress)
    (sub : history ⊆ longer) : ProgressSound longer disk who marker name download progress := by
  cases progress with
  | opening => exact Traceable.later sound sub
  | staging bytes => exact sub sound
  | copying rest copy => exact ⟨sound.1, sub sound.2⟩
  | placing copy => exact ⟨sound.1, sub sound.2⟩
  | cleaning outcome =>
      cases outcome with
      | error error => trivial
      | ok edition => exact Fresh.later sound sub

theorem Genuine.later (genuine : Genuine history edition) (sub : history ⊆ longer) :
    Genuine longer edition := by
  obtain ⟨printer, who, bytes, marker, sent, isOf⟩ := genuine
  exact ⟨printer, who, bytes, marker, sent.later sub, isOf⟩

theorem ResultSound.later (sound : ResultSound history result) (sub : history ⊆ longer) :
    ResultSound longer result := by
  cases result with
  | refreshed outcome =>
      cases outcome with
      | error error => trivial
      | ok snapshot => exact Genuine.later sound sub
  | cached found =>
      cases found with
      | none => trivial
      | some snapshot => exact Genuine.later sound sub
  | invalidated _ | shutDown | answered _ | abandoned => trivial

theorem PhaseSound.later (sound : PhaseSound history service who request phase)
    (sub : history ⊆ longer) : PhaseSound longer service who request phase := by
  cases phase with
  | fetching number exchange =>
      intro download marker known
      exact (sound download marker known).later sub
  | replacing number marker =>
      obtain ⟨printer, download, progress, refreshes, found, progressed⟩ := sound
      exact ⟨printer, download, progress, refreshes, found, progressed.later sub⟩
  | replaced number marker outcome =>
      cases outcome with
      | error error => trivial
      | ok edition =>
          obtain ⟨printer, refreshes, fresh⟩ := sound
          exact ⟨printer, refreshes, fresh.later sub⟩
  | discarding result | discarded result | finished result => exact ResultSound.later sound sub
  | starting | queued _ | failed _ _ | unlisted _ _ | sealing | asking _ _ => trivial

theorem Consistent.later (consistent : Consistent origin history service)
    (sub : history ⊆ longer) : Consistent origin longer service :=
  { consistent with
    calls := by
      intro who call found
      obtain ⟨asked, held, sound⟩ := consistent.calls who call found
      exact ⟨sub asked, held, sound.later sub⟩
    entries := by
      intro number entry found edition current
      obtain ⟨who, bytes, sent, isOf, kept⟩ :=
        consistent.entries number entry found edition current
      refine ⟨who, bytes, sent.later sub, isOf, kept.imp_left ?_⟩
      exact Or.imp_left fun gone => sub gone }

end Later

/-- Nothing happens but that other parts of the service change, or downloads and
files go away. -/
theorem Consistent.undisturbed (consistent : Consistent origin history before)
    (entries : after.entries = before.entries) (listing : after.listing = before.listing)
    (nextEntry : after.nextEntry = before.nextEntry) (calls : after.calls = before.calls)
    (jobs : after.jobs = before.jobs)
    (spared : before.disk.Spares (Removed history) who (fun _ => False) after.disk)
    (staged : ∀ bytes, after.disk.staged.entry? who = some bytes →
      before.disk.staged.entry? who = some bytes)
    (counted : after.disk.IsCounted) : Consistent origin history after := by
  have sameCalls (other : Nat) : after.call? other = before.call? other :=
    congrArg (Roster.entry? · other) calls
  have samePhases (other : Nat) : after.phase? other = before.phase? other :=
    congrArg (Option.map Call.phase) (sameCalls other)
  have kept : before.Spares history who (fun _ => False) after :=
    ⟨entries, listing, nextEntry, fun other _ => sameCalls other, fun _ _ => by rw [jobs], spared⟩
  refine consistent.act kept counted ?_ ?_ ?_ (fun _ _ _ _ _ => id) ?_
  · intro call found
    rw [sameCalls] at found
    obtain ⟨asked, held, sound⟩ := consistent.calls who call found
    refine ⟨asked, ?_, sound.transport (by rw [jobs]) spared (fun _ _ _ _ => id)⟩
    intro number grip
    obtain ⟨printer, refreshes, holds⟩ := held number grip
    exact ⟨printer, refreshes, kept.holds holds⟩
  · rw [jobs, samePhases]
    exact consistent.jobs who
  · intro bytes found
    rw [jobs]
    exact consistent.staged who bytes (staged bytes found)
  · intro number entry found _
    refine (consistent.entries number entry found).transport ?_ ?_
    · intro bytes stored
      exact spared.files entry.file bytes id stored
    · intro other renews
      rw [Renews, samePhases, jobs]
      exact renews

theorem Consistent.withPool (consistent : Consistent origin history service) (pool : Pool) :
    Consistent origin history { service with pool } :=
  consistent.undisturbed rfl rfl rfl rfl rfl (Disk.Spares.refl 0 _ _) (fun _ => id)
    consistent.counted

section Phases

@[simp] theorem call?_setPhase {other : Nat} :
    (service.setPhase who phase).call? other =
      if other = who then (service.call? who).map fun call => { call with phase }
      else service.call? other :=
  Roster.entry_change fun call : Call => { call with phase }

/-- A call has one request and is in one phase. -/
theorem call?_inj {asks : Request} {next : Phase}
    (found : service.call? who = some ⟨request, phase⟩)
    (again : service.call? who = some ⟨asks, next⟩) : request = asks ∧ phase = next :=
  Call.mk.inj (Option.some.inj (found.symm.trans again))

theorem call?_setPhase_self (found : service.call? who = some call) :
    (service.setPhase who phase).call? who = some { call with phase } := by
  rw [call?_setPhase, if_pos rfl, found]
  rfl

theorem phase?_setPhase (found : service.call? who = some call) :
    (service.setPhase who phase).phase? who = some phase :=
  phase?_of_call? (call?_setPhase_self found)

/-- Phases in which a call has no job and has changed no file. -/
def Phase.rests : Phase → Bool
  | .replacing .. | .replaced _ _ (.ok _) | .discarding _ => false
  | _ => true

theorem Consistent.idle (consistent : Consistent origin history service)
    (found : service.call? who = some call) (waits : ¬ ∃ job, JobFits job (some call.phase)) :
    service.jobs.entry? who = none := by
  cases known : service.jobs.entry? who with
  | none => rfl
  | some job =>
      have fits := consistent.jobs who job known
      rw [phase?_of_call? found] at fits
      exact absurd ⟨job, fits⟩ waits

theorem not_renews (found : service.call? who = some call) (rests : call.phase.rests = true) :
    ¬ service.Renews who number := by
  have known := phase?_of_call? found
  rintro (⟨marker, edition, doing⟩ | ⟨marker, download, name, edition, doing, -⟩)
  · obtain same := Option.some.inj (known.symm.trans doing)
    rw [same] at rests
    contradiction
  · obtain same := Option.some.inj (known.symm.trans doing)
    rw [same] at rests
    contradiction

theorem Consistent.idle_of_rests (consistent : Consistent origin history service)
    (found : service.call? who = some call) (rests : call.phase.rests = true) :
    service.jobs.entry? who = none := by
  refine consistent.idle found ?_
  rintro ⟨job, fits⟩
  cases doing : call.phase with
  | replacing _ _ => rw [doing] at rests; contradiction
  | discarding _ => rw [doing] at rests; contradiction
  | _ => cases job <;> rw [doing] at fits <;> exact fits

/-- A call without a job comes to another phase. -/
theorem Consistent.setPhase (consistent : Consistent origin history service)
    (found : service.call? who = some call) (idle : service.jobs.entry? who = none)
    (own : CallSound history service who { call with phase })
    (settled : ∀ number entry, service.Renews who number → service.entry? number = some entry →
      EntrySound history (service.setPhase who phase) number entry) :
    Consistent origin history (service.setPhase who phase) := by
  have spared : service.Spares history who (fun _ => False) (service.setPhase who phase) := by
    refine ⟨rfl, rfl, rfl, ?_, fun _ _ => rfl, .refl _ _ _⟩
    intro other different
    rw [call?_setPhase, if_neg different]
  refine consistent.act spared consistent.counted ?_ ?_ (consistent.staged who)
    (fun _ _ _ _ _ => id) ?_
  · intro call after
    obtain rfl := Option.some.inj ((call?_setPhase_self found).symm.trans after)
    exact ⟨own.asked, own.held, own.sound⟩
  · intro job known
    exact absurd (idle.symm.trans known) (by simp)
  · rintro number entry known (renews | touched)
    · exact settled number entry renews known
    · exact touched.elim

/-- A call that rests comes to another phase. -/
theorem Consistent.move (consistent : Consistent origin history service)
    (found : service.call? who = some call) (rests : call.phase.rests = true)
    (own : CallSound history service who { call with phase }) :
    Consistent origin history (service.setPhase who phase) :=
  consistent.setPhase found (consistent.idle_of_rests found rests) own
    fun _ _ renews => absurd renews (not_renews found rests)

/-- A call that rests gets a job and waits for it. -/
theorem Consistent.takeUp (consistent : Consistent origin history service)
    (found : service.call? who = some call) (rests : call.phase.rests = true)
    (fits : JobFits job (some phase))
    (own : CallSound history (service.addJob who job) who { call with phase }) :
    Consistent origin history ((service.addJob who job).setPhase who phase) := by
  have idle := consistent.idle_of_rests found rests
  have spared :
      service.Spares history who (fun _ => False) ((service.addJob who job).setPhase who phase) := by
    refine ⟨rfl, rfl, rfl, ?_, ?_, .refl _ _ _⟩
    · intro other different
      rw [call?_setPhase, if_neg different]
      rfl
    · intro other different
      change Roster.entry? (service.jobs.add who job) other = _
      simp [Roster.entry_add, different]
  have known : ((service.addJob who job).setPhase who phase).call? who =
      some { call with phase } := call?_setPhase_self found
  refine consistent.act spared consistent.counted ?_ ?_ ?_ (fun _ _ _ _ _ => id) ?_
  · intro call after
    obtain rfl := Option.some.inj (known.symm.trans after)
    exact ⟨own.asked, own.held, own.sound⟩
  · intro given after
    change Roster.entry? (service.jobs.add who job) who = _ at after
    rw [Roster.entry_add, idle, if_pos rfl] at after
    obtain rfl := Option.some.inj after
    rw [phase?_of_call? known]
    exact fits
  · intro bytes staged
    obtain ⟨other, taken, -⟩ := consistent.staged who bytes staged
    exact absurd (idle.symm.trans taken) (by simp)
  · rintro number entry _ (renews | touched)
    · exact absurd renews (not_renews found rests)
    · exact touched.elim

end Phases

end PrintConnector.Service
