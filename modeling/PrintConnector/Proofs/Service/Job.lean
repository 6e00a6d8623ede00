import PrintConnector.Proofs.Service.Entry

namespace PrintConnector.Service

open Cache (Copy Disk Edition Entry Fault FileName stemOf)

variable {history : List Event} {origin after service : Service} {who number download : Nat}
  {target : FileName} {progress next : Replacement} {disk : Disk} {call : Call} {phase : Phase}
  {touched : FileName → Prop} {fault : Option Fault} {entries : List Nat}

/-- A call waits for its job. -/
theorem Consistent.caller {job : Job} (consistent : Consistent origin history service)
    (working : service.jobs.entry? who = some job) :
    ∃ call, service.call? who = some call ∧ JobFits job (some call.phase) := by
  have fits := consistent.jobs who job working
  cases found : service.call? who with
  | none =>
      rw [phase?, found] at fits
      cases job <;> exact fits.elim
  | some call =>
      rw [phase?_of_call? found] at fits
      exact ⟨call, rfl, fits⟩

/-- A call waits for the job that replaces the file of its entry. -/
theorem Consistent.replacing (consistent : Consistent origin history service)
    (working : service.jobs.entry? who = some (.replace download target progress)) :
    ∃ call number marker printer, service.call? who = some call ∧
      call.phase = .replacing number marker ∧ call.request = .refresh printer ∧
      service.Holds who number printer ∧ target = ⟨stemOf printer, number⟩ ∧
      ProgressSound history service.disk who marker target download progress := by
  obtain ⟨call, found, fits⟩ := consistent.caller working
  obtain ⟨-, held, sound⟩ := consistent.calls who call found
  cases doing : call.phase with
  | replacing number marker =>
      rw [doing] at held sound
      obtain ⟨printer, knownDownload, knownProgress, refreshes, known, progressed⟩ := sound
      obtain ⟨rfl, rfl, rfl⟩ := Job.replace.inj (Option.some.inj (working.symm.trans known))
      obtain ⟨same, asks, holds⟩ := held number rfl
      obtain rfl := Request.refresh.inj (refreshes.symm.trans asks)
      exact ⟨call, number, marker, printer, found, doing, refreshes, holds, rfl, progressed⟩
  | _ =>
      rw [doing] at fits
      exact fits.elim

/-- A staging file has in it what its job has copied. -/
theorem Consistent.stages {bytes : List UInt8} {job : Job}
    (consistent : Consistent origin history service)
    (working : service.jobs.entry? who = some job)
    (staged : service.disk.staged.entry? who = some bytes) : job.Stages bytes := by
  obtain ⟨known, same, stages⟩ := consistent.staged who bytes staged
  obtain rfl := Option.some.inj (working.symm.trans same)
  exact stages

theorem Consistent.unstaged {job : Job} (consistent : Consistent origin history service)
    (working : service.jobs.entry? who = some job) (empty : ∀ bytes, ¬ job.Stages bytes) :
    service.disk.staged.entry? who = none := by
  cases staged : service.disk.staged.entry? who with
  | none => rfl
  | some bytes => exact absurd (consistent.stages working staged) (empty bytes)

/-- Nothing is left to do but to remove the download. -/
def Replacement.isDone : Replacement → Bool
  | .cleaning _ => true
  | _ => false

/-- A replacement that is not done yet gets further. -/
theorem Consistent.advance (consistent : Consistent origin history service)
    (working : service.jobs.entry? who = some (.replace download target progress))
    (undone : progress.isDone = false)
    (spared : service.disk.Spares (Removed history) who touched disk) (counted : disk.IsCounted)
    (sound : ∀ marker, ProgressSound history service.disk who marker target download progress →
      ProgressSound history disk who marker target download next)
    (staged : ∀ bytes, disk.staged.entry? who = some bytes →
      (Job.replace download target next).Stages bytes)
    (placed : ∀ name, touched name → name = target ∧ ∃ edition, next = .cleaning (.ok edition)) :
    Consistent origin history
      ({ service with disk }.setJob who (.replace download target next)) := by
  obtain ⟨call, number, marker, printer, found, replacing, refreshes, holds, file, progressed⟩ :=
    consistent.replacing working
  let after := { service with disk }.setJob who (.replace download target next)
  have job : after.jobs.entry? who = some (.replace download target next) := by
    change Roster.entry? (service.jobs.update who _) who = _
    rw [Roster.entry_update, if_pos rfl, working]
    rfl
  have doing : after.phase? who = some (.replacing number marker) := by
    rw [← replacing]
    exact phase?_of_call? found
  have kept : service.Spares history who touched after := by
    refine ⟨rfl, rfl, rfl, fun _ _ => rfl, ?_, spared⟩
    intro other different
    change Roster.entry? (service.jobs.update who _) other = _
    rw [Roster.entry_update, if_neg different]
  refine consistent.act kept counted ?_ ?_ ?_ ?_ ?_
  · intro same again
    obtain rfl := Option.some.inj (found.symm.trans again)
    obtain ⟨asked, held, -⟩ := consistent.calls who call found
    refine ⟨asked, held, ?_⟩
    rw [replacing]
    refine ⟨printer, download, next, refreshes, ?_, ?_⟩
    · rw [← file]
      exact job
    · rw [← file]
      exact sound marker progressed
  · intro other known
    obtain rfl := Option.some.inj (job.symm.trans known)
    rw [doing]
    trivial
  · intro bytes found
    exact ⟨_, job, staged bytes found⟩
  · intro other otherNumber otherPrinter different others touches
    have same := (placed _ touches).1.trans file
    obtain rfl : otherNumber = number := congrArg FileName.tag same
    exact different (holds.unique others)
  · rintro other entry known ((⟨marker, edition, replaced⟩ | ⟨_, _, _, edition, -, done⟩) | touches)
    · rw [phase?_of_call? found, replacing] at replaced
      exact nomatch Option.some.inj replaced
    · obtain ⟨-, -, same⟩ := Job.replace.inj (Option.some.inj (working.symm.trans done))
      rw [same] at undone
      contradiction
    · obtain ⟨sameFile, edition, rfl⟩ := placed _ touches
      have same : other = number := by
        have tags := congrArg FileName.tag (sameFile.trans file)
        rw [(consistent.early known).1] at tags
        exact tags
      subst same
      exact (consistent.entries _ entry known).renewing
        (.inr ⟨marker, download, target, edition, doing, job⟩)

/-- A replacement gives up, and its staging file goes away. -/
theorem Consistent.giveUp {error : Error} (consistent : Consistent origin history service)
    (working : service.jobs.entry? who = some (.replace download target progress))
    (undone : progress.isDone = false) :
    Consistent origin history ({ service with disk := service.disk.unstage who }.setJob who
      (.replace download target (.cleaning (.error error)))) := by
  refine consistent.advance working undone (Disk.spares_unstage who (fun _ => False) _)
    consistent.counted (fun _ _ => trivial) ?_ nofun
  intro bytes found
  rw [Disk.staged_unstage] at found
  contradiction

/-- The job of a call is done, and the call comes to another phase. -/
theorem Consistent.resolve (consistent : Consistent origin history service)
    (found : service.call? who = some call)
    (spared : service.disk.Spares (Removed history) who (fun _ => False) disk)
    (counted : disk.IsCounted)
    (staged : disk.staged.entry? who = none)
    (own : CallSound history (({ service with disk }.endJob who).setPhase who phase) who
      { call with phase })
    (settled : ∀ number, service.Renews who number →
      (({ service with disk }.endJob who).setPhase who phase).Renews who number) :
    Consistent origin history (({ service with disk }.endJob who).setPhase who phase) := by
  let after := ({ service with disk }.endJob who).setPhase who phase
  have ended (other : Nat) : after.jobs.entry? other =
      if other = who then none else service.jobs.entry? other := Roster.entry_remove
  have known : after.call? who = some { call with phase } := call?_setPhase_self found
  have kept : service.Spares history who (fun _ => False) after := by
    refine ⟨rfl, rfl, rfl, ?_, ?_, spared⟩
    · intro other different
      rw [call?_setPhase, if_neg different]
      rfl
    · intro other different
      rw [ended, if_neg different]
  refine consistent.act kept counted ?_ ?_ ?_ (fun _ _ _ _ _ => id) ?_
  · intro same again
    obtain rfl := Option.some.inj (known.symm.trans again)
    exact own
  · intro job working
    rw [ended, if_pos rfl] at working
    contradiction
  · intro bytes there
    exact nomatch staged.symm.trans there
  · rintro number entry before (renews | touches)
    · exact (consistent.entries number entry before).renewing (settled number renews)
    · exact touches.elim

/-- A replacement ends, and its call goes on with the outcome. -/
theorem Consistent.conclude {outcome : Except Error Edition}
    (consistent : Consistent origin history service)
    (working :
      service.jobs.entry? who = some (.replace download target (.cleaning outcome))) :
    Consistent origin history
      (({ service with disk := service.disk.removeDownload download }.endJob who).deliver who
        outcome) := by
  obtain ⟨call, number, marker, printer, found, replacing, refreshes, holds, file, progressed⟩ :=
    consistent.replacing working
  obtain ⟨asked, held, -⟩ := consistent.calls who call found
  have spared : service.disk.Spares (Removed history) who (fun _ => False)
      (service.disk.removeDownload download) :=
    Disk.spares_removeDownload who _ service.disk download
  have doing : service.phase? who = some (.replacing number marker) := by
    rw [← replacing]
    exact phase?_of_call? found
  have delivered :
      ({ service with disk := service.disk.removeDownload download }.endJob who).deliver who outcome =
        ({ service with disk := service.disk.removeDownload download }.endJob who).setPhase who
          (.replaced number marker outcome) := by
    unfold deliver
    split
    · rename_i known
      obtain ⟨rfl, rfl⟩ := Phase.replacing.inj (Option.some.inj (doing.symm.trans known))
      rfl
    · rename_i other
      exact absurd doing (other _ _)
  rw [delivered]
  refine consistent.resolve found spared (consistent.counted.removeDownload download) ?_
    ⟨asked, ?_, ?_⟩ ?_
  · change service.disk.staged.entry? who = none
    exact consistent.unstaged working fun _ => id
  · rw [replacing] at held
    exact held
  · cases outcome with
    | error error => trivial
    | ok edition =>
        rw [file] at progressed
        exact ⟨printer, refreshes, Fresh.spares progressed spared id⟩
  · rintro other (⟨_, edition, replaced⟩ | ⟨_, _, _, edition, again, done⟩)
    · exact nomatch doing.symm.trans replaced
    · obtain ⟨-, -, same⟩ := Job.replace.inj (Option.some.inj (working.symm.trans done))
      obtain rfl := Replacement.cleaning.inj same
      obtain ⟨rfl, rfl⟩ := Phase.replacing.inj (Option.some.inj (doing.symm.trans again))
      exact .inl ⟨marker, edition, phase?_setPhase found⟩

/-- A replacement goes on without having staged anything. -/
theorem Consistent.advanceUnstaged (consistent : Consistent origin history service)
    (working : service.jobs.entry? who = some (.replace download target progress))
    (undone : progress.isDone = false)
    (empty : ∀ bytes, ¬ (Job.replace download target progress).Stages bytes)
    (sound : ∀ marker, ProgressSound history service.disk who marker target download progress →
      ProgressSound history service.disk who marker target download next) :
    Consistent origin history (service.setJob who (.replace download target next)) := by
  refine consistent.advance working undone (.refl who (fun _ => False) _) consistent.counted sound
    ?_ nofun
  intro bytes found
  exact nomatch (consistent.unstaged working empty).symm.trans found

theorem Consistent.replaceStep (consistent : Consistent origin history service)
    (working : service.jobs.entry? who = some (.replace download target progress)) :
    Consistent origin history (service.replaceStep who download target progress fault) := by
  cases progress with
  | opening =>
      unfold Service.replaceStep
      dsimp only
      split
      · rename_i bytes read
        refine consistent.advanceUnstaged working rfl (fun _ => id) ?_
        intro marker traceable
        exact traceable.2 bytes (Disk.readDownload_inv read)
      · exact consistent.advanceUnstaged working rfl (fun _ => id) fun _ _ => trivial
  | staging bytes =>
      unfold Service.replaceStep
      dsimp only
      split
      · rename_i disk staged
        have grown := Disk.stage_inv staged
        refine consistent.advance working rfl (Disk.spares_stage (fun _ => False) staged) ?_ ?_ ?_
          nofun
        · rw [grown]
          exact consistent.counted
        · intro marker came
          exact ⟨Copy.isSound_empty, came⟩
        · intro contents found
          rw [grown] at found
          change Roster.entry? (service.disk.staged.add who []) who = _ at found
          rw [Roster.entry_add, consistent.unstaged working fun _ => id, if_pos rfl] at found
          exact (Option.some.inj found).symm
      · exact consistent.advanceUnstaged working rfl (fun _ => id) fun _ _ => trivial
  | copying rest copy =>
      unfold Service.replaceStep
      dsimp only
      split
      · rename_i disk appended
        obtain ⟨grown, contents, -⟩ := Disk.append_inv appended
        have written {bytes : List UInt8} (found : disk.staged.entry? who = some bytes) :
            bytes = copy.contents ++ rest.take Copy.pieceSize := by
          obtain ⟨front, before, rfl⟩ := contents bytes found
          rw [consistent.stages working before]
        refine consistent.advance working rfl (Disk.spares_append (fun _ => False) appended) ?_ ?_
          ?_ nofun
        · rw [grown]
          exact consistent.counted
        · rintro marker ⟨sound, came⟩
          split
          · rename_i empty
            obtain rfl := List.isEmpty_iff.mp empty
            rw [List.append_nil] at came
            exact ⟨sound, came⟩
          · refine ⟨sound.add _, ?_⟩
            rw [Copy.add, List.append_assoc, List.take_append_drop]
            exact came
        · intro bytes found
          have whole := written found
          split
          · rename_i empty
            obtain rfl := List.isEmpty_iff.mp empty
            rw [List.take_nil, List.append_nil] at whole
            exact whole
          · exact whole
      · exact consistent.giveUp working rfl
  | placing copy =>
      unfold Service.replaceStep
      dsimp only
      split
      · rename_i disk replaced
        obtain ⟨bytes, before, gone, contents⟩ := Disk.content?_replace replaced
        obtain rfl : bytes = copy.contents := consistent.stages working before
        refine consistent.advance working rfl (Disk.spares_replace replaced) ?_ ?_ ?_ ?_
        · obtain ⟨_, -, same⟩ := Disk.replace_inv replaced
          rw [same]
          exact consistent.counted
        · rintro marker ⟨sound, came⟩
          refine ⟨copy.contents, came, sound.edition who, .inr ?_⟩
          rw [contents, if_pos rfl]
        · intro bytes found
          rw [gone] at found
          contradiction
        · rintro name rfl
          exact ⟨rfl, _, rfl⟩
      · exact consistent.giveUp working rfl
  | cleaning outcome => exact consistent.conclude working

/-- A call that holds no lock leaves the lines of some entries. -/
theorem Consistent.unlockAll (entries : List Nat) (consistent : Consistent origin history service)
    (found : service.call? who = some call) (free : call.phase.grip? = none) :
    let after := entries.foldl (fun service number => service.unlock who number) service
    Consistent origin history after ∧ after.calls = service.calls ∧ after.jobs = service.jobs := by
  induction entries generalizing service with
  | nil => exact ⟨consistent, rfl, rfl⟩
  | cons number entries ih =>
      have unlocked : Consistent origin history (service.unlock who number) := by
        refine consistent.unlock ?_
        intro same again grip
        obtain rfl := Option.some.inj (found.symm.trans again)
        exact nomatch free.symm.trans grip
      exact ih unlocked found

theorem Consistent.discardStep (consistent : Consistent origin history service)
    (working : service.jobs.entry? who = some (.discard entries)) :
    Consistent origin history (service.discardStep who entries) := by
  obtain ⟨call, found, fits⟩ := consistent.caller working
  obtain ⟨result, discarding⟩ : ∃ result, call.phase = .discarding result := by
    cases doing : call.phase with
    | discarding result => exact ⟨result, rfl⟩
    | _ =>
        rw [doing] at fits
        exact fits.elim
  obtain ⟨unlocked, calls, jobs⟩ :=
    consistent.unlockAll entries found (by rw [discarding]; rfl)
  let after := entries.foldl (fun service number => service.unlock who number) service
  have foundAfter : after.call? who = some call := by
    rw [call?, calls]
    exact found
  have workingAfter : after.jobs.entry? who = some (.discard entries) := by
    rw [jobs]
    exact working
  have doing : after.phase? who = some (.discarding result) := by
    rw [← discarding]
    exact phase?_of_call? foundAfter
  have acknowledged :
      (after.endJob who).acknowledge who =
        (after.endJob who).setPhase who (.discarded result) := by
    unfold acknowledge
    split
    · rename_i known
      obtain rfl := Phase.discarding.inj (Option.some.inj (doing.symm.trans known))
      rfl
    · rename_i other
      exact absurd doing (other _)
  obtain ⟨asked, -, sound⟩ := unlocked.calls who call foundAfter
  rw [discarding] at sound
  have resolved : Consistent origin history ((after.endJob who).setPhase who (.discarded result)) := by
    refine unlocked.resolve foundAfter (.refl who _ _) unlocked.counted
      (unlocked.unstaged workingAfter fun _ => id) ⟨asked, nofun, sound⟩ ?_
    rintro number (⟨_, _, replaced⟩ | ⟨_, _, _, _, replacing, -⟩)
    · exact nomatch doing.symm.trans replaced
    · exact nomatch doing.symm.trans replacing
  change Consistent origin history ((after.endJob who).acknowledge who).sweep
  rw [acknowledged]
  exact resolved.sweep

theorem Consistent.work (consistent : Consistent origin history service)
    (worked : service.work? who fault = some after) : Consistent origin history after := by
  obtain ⟨job, working, taken⟩ := Option.bind_eq_some_iff.mp worked
  cases job with
  | replace download target progress =>
      obtain rfl := Option.some.inj taken
      exact consistent.replaceStep working
  | discard entries =>
      obtain rfl := Option.some.inj taken
      exact consistent.discardStep working

end PrintConnector.Service
