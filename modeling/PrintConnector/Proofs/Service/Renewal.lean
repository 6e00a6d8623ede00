import PrintConnector.Proofs.Service.Career

/-! How a new document gets from the server into an entry.

A call that has its answer hands the download to a job, the job puts the document in the
file of the entry, and the call then puts it into the other fields.  Between the last
two the document is in one place and not in the other; if the call is given up there, it
stays so.
-/

namespace PrintConnector.Service

open Cache (Copy Disk Edition Entry Fault FileName Snapshot stemOf)

variable {before after : Service} {event : Event} {who number download : Nat} {request : Request}
  {phase : Phase} {marker : Option String} {edition : Edition} {target : FileName}
  {progress : Replacement}

/-- How the replacement that a call has under way after a move came about. -/
inductive Hauls (before : Service) (who download : Nat) (target : FileName) :
    Replacement → Event → Service → Prop where
  | take {number : Nat} {request : Request} {exchange : Exchange (PpdReply Nat)}
      {marker : Option String} {entry : Entry} {fault : Option Fault}
      (asked : before.call? who = some ⟨request, .fetching number exchange⟩)
      (concluded : exchange.position = .finished (some (.ok (.document download marker))))
      (known : before.entry? number = some entry) (file : entry.file = target) :
      Hauls before who download target .opening (.go who fault)
        ((before.addJob who (.replace download target .opening)).setPhase who
          (.replacing number marker))
  | prepare {progress next : Replacement} {disk : Disk} {fault : Option Fault}
      (working : before.jobs.entry? who = some (.replace download target progress))
      (prepared : Prepares before.disk who download target progress disk next) :
      Hauls before who download target next (.work who fault)
        ({ before with disk }.setJob who (.replace download target next))
  | place {copy : Copy} {disk : Disk} {fault : Option Fault}
      (working : before.jobs.entry? who = some (.replace download target (.placing copy)))
      (replaced : before.disk.replace who target fault = .ok disk) :
      Hauls before who download target (.cleaning (.ok (copy.edition who))) (.work who fault)
        ({ before with disk }.setJob who
          (.replace download target (.cleaning (.ok (copy.edition who)))))
  | desert {number : Nat} {request : Request} {marker : Option String} {progress : Replacement}
      (asked : before.call? who = some ⟨request, .replacing number marker⟩)
      (working : before.jobs.entry? who = some (.replace download target progress)) :
      Hauls before who download target progress (.abandon who) (before.finish who .abandoned)

theorem Prepares.not_done {disk last : Disk} {next : Replacement}
    (prepared : Prepares disk who download target progress last next) :
    next ≠ .cleaning (.ok edition) := by
  cases prepared with
  | append => split <;> nofun
  | _ => nofun

/-- Whoever has a replacement under way is the refresh of its target, or was given up. -/
theorem Orderly.replacement (orderly : before.Orderly)
    (asked : before.call? who = some ⟨request, phase⟩)
    (working : before.jobs.entry? who = some (.replace download target progress)) :
    (∃ number marker printer, phase = .replacing number marker ∧ request = .refresh printer ∧
      target = ⟨stemOf printer, number⟩) ∨ phase = .finished .abandoned := by
  rcases (orderly.calls who _ asked).job _ working with ⟨doing, asks⟩ | concluded
  · exact .inl ⟨_, _, _, doing, asks, rfl⟩
  · exact .inr concluded

theorem deliver_jobs {outcome : Except Error Edition} :
    (before.deliver who outcome).jobs = before.jobs := by
  unfold deliver
  split <;> rfl

theorem discardStep_jobs {entries : List Nat} :
    (before.discardStep who entries).jobs.entry? who = none := by
  obtain ⟨loosened, unlocked⟩ := unlockAll_eq before who entries
  have jobs : (before.discardStep who entries).jobs = before.jobs.remove who := by
    unfold discardStep acknowledge
    dsimp only
    rw [unlocked]
    split <;> rfl
  rw [jobs, Roster.entry_remove, if_pos rfl]

theorem Orderly.hauls (orderly : before.Orderly) (moved : before.Move event after)
    (caller : event.caller? = some who)
    (working : after.jobs.entry? who = some (.replace download target progress)) :
    Hauls before who download target progress event after := by
  -- Without a job before, the move must have started this one.
  have idle {request : Request} {phase : Phase} (asked : before.call? who = some ⟨request, phase⟩)
      (rests : phase.works = false) : before.jobs.entry? who = none := orderly.idle asked rests
  cases moved with
  | take asked concluded known =>
      obtain rfl := Option.some.inj caller
      obtain ⟨rfl, rfl, rfl⟩ := Job.replace.inj
        (Option.some.inj ((jobs_addJob (idle asked rfl)).symm.trans working))
      exact .take asked concluded known rfl
  | prepare working' prepared =>
      obtain rfl := Option.some.inj caller
      obtain ⟨rfl, rfl, rfl⟩ := Job.replace.inj
        (Option.some.inj ((jobs_setJob working').symm.trans working))
      exact .prepare working' prepared
  | place working' replaced =>
      obtain rfl := Option.some.inj caller
      obtain ⟨rfl, rfl, rfl⟩ := Job.replace.inj
        (Option.some.inj ((jobs_setJob working').symm.trans working))
      exact .place working' replaced
  | finish asked ends =>
      obtain rfl := Option.some.inj (ends.caller.symm.trans caller)
      rw [finish_jobs] at working
      rcases orderly.replacement asked working with ⟨number, marker, printer, rfl, -⟩ | concluded
      · cases ends with
        | failed _ fails => cases fails
        | abandoned => exact .desert asked working
      · exact absurd concluded (ends.under _)
  | forget asked | release asked | drain asked =>
      obtain rfl := Option.some.inj caller
      have other := Option.some.inj ((jobs_addJob (idle asked rfl)).symm.trans working)
      contradiction
  | discard =>
      obtain rfl := Option.some.inj caller
      simp [discardStep_jobs] at working
  | clean =>
      obtain rfl := Option.some.inj caller
      simp [deliver_jobs, jobs_endJob] at working
  | enter new =>
      obtain rfl := Option.some.inj caller
      obtain ⟨call, found⟩ := orderly.jobs _ _ working
      simp [new] at found
  | fail asked known fails =>
      obtain rfl := Option.some.inj caller
      have rests := idle asked (by cases fails <;> rfl)
      exact absurd (rests.symm.trans working) (by simp)
  | unlist asked =>
      obtain rfl := Option.some.inj caller
      obtain ⟨listing, same⟩ := strikeEntry_eq before _ _
      rw [same] at working
      exact absurd ((idle asked rfl).symm.trans working) (by simp)
  | settle asked | sealUp asked =>
      obtain rfl := Option.some.inj caller
      rw [finish_jobs] at working
      exact absurd ((idle asked rfl).symm.trans working) (by simp)
  | advance asked advanced | ask asked advanced =>
      obtain rfl := Option.some.inj ((advances_caller advanced).symm.trans caller)
      exact absurd ((idle asked rfl).symm.trans working) (by simp)
  | answer asked received =>
      obtain rfl := Option.some.inj caller
      rw [(received_inv received).1] at working
      exact absurd ((idle asked rfl).symm.trans working) (by simp)
  | hear asked received =>
      obtain rfl := Option.some.inj caller
      rw [(receivedAny_inv received).1] at working
      exact absurd ((idle asked rfl).symm.trans working) (by simp)
  | create asked | queue asked | strike asked | query asked | fetch asked | restart asked
  | shutGate asked =>
      obtain rfl := Option.some.inj caller
      exact absurd ((idle asked rfl).symm.trans working) (by simp)
  | reap | elapse | age | lose | removeDirectory => contradiction

/-- What a call that waits for its replacement can come to. -/
inductive Resolves (before : Service) (who number : Nat) (request : Request)
    (marker : Option String) : Event → Service → Prop where
  | wait {event : Event} {after : Service}
      (busy : ∀ download target outcome,
        before.jobs.entry? who ≠ some (.replace download target (.cleaning outcome)))
      (kept : after.call? who = some ⟨request, .replacing number marker⟩) :
      Resolves before who number request marker event after
  | deliver {event : Event} {after : Service} {download : Nat} {target : FileName}
      {outcome : Except Error Edition}
      (working : before.jobs.entry? who = some (.replace download target (.cleaning outcome)))
      (told : after.call? who = some ⟨request, .replaced number marker outcome⟩) :
      Resolves before who number request marker event after
  | desert : Resolves before who number request marker (.abandon who) (before.finish who .abandoned)

theorem Orderly.resolves (orderly : before.Orderly) (moved : before.Move event after)
    (caller : event.caller? = some who)
    (asked : before.call? who = some ⟨request, .replacing number marker⟩) :
    Resolves before who number request marker event after := by
  have same {call : Call} (again : before.call? who = some call) :
      call = ⟨request, .replacing number marker⟩ := Option.some.inj (again.symm.trans asked)
  cases moved with
  | finish asked' ends =>
      obtain rfl := Option.some.inj (ends.caller.symm.trans caller)
      obtain ⟨rfl, rfl⟩ := Call.mk.inj (same asked')
      cases ends with
      | failed _ fails => cases fails
      | abandoned => exact .desert
  | prepare working prepared =>
      obtain rfl := Option.some.inj caller
      refine .wait ?_ asked
      intro download target outcome cleaning
      obtain ⟨rfl, rfl, rfl⟩ := Job.replace.inj (Option.some.inj (working.symm.trans cleaning))
      cases prepared
  | place working =>
      obtain rfl := Option.some.inj caller
      refine .wait ?_ asked
      intro download target outcome cleaning
      simp [working] at cleaning
  | clean working =>
      obtain rfl := Option.some.inj caller
      exact .deliver working (deliver_call?_replacing asked)
  | discard working =>
      obtain rfl := Option.some.inj caller
      rcases (orderly.calls _ _ asked).job _ working with _ | _ | ⟨⟨_, doing⟩ | doing, -⟩ <;>
        contradiction
  | enter new =>
      obtain rfl := Option.some.inj caller
      simp [asked] at new
  | fail asked' _ fails =>
      obtain rfl := Option.some.inj caller
      obtain ⟨-, rfl⟩ := Call.mk.inj (same asked')
      cases fails
  | advance asked' advanced | ask asked' advanced =>
      obtain rfl := Option.some.inj ((advances_caller advanced).symm.trans caller)
      simp [asked] at asked'
  | create asked' | queue asked' | strike asked' | drain asked' | query asked' | fetch asked'
  | restart asked' | forget asked' | answer asked' | hear asked' | take asked' | settle asked'
  | unlist asked' | release asked' | shutGate asked' | sealUp asked' =>
      obtain rfl := Option.some.inj caller
      simp [asked] at asked'
  | reap | elapse | age | lose | removeDirectory => contradiction

theorem Orderly.settles_or_deserts (orderly : before.Orderly) (moved : before.Move event after)
    (caller : event.caller? = some who)
    (asked : before.call? who = some ⟨request, .replaced number marker (.ok edition)⟩) :
    (∃ entry, before.entry? number = some entry ∧
      after = (before.setEntry number fun entry =>
        { entry with marker, current := some edition }).finish who
          (.refreshed (.ok ⟨entry.file, edition⟩))) ∨
    event = .abandon who ∧ after = before.finish who .abandoned := by
  have idle := orderly.idle asked rfl
  have same {call : Call} (again : before.call? who = some call) :
      call = ⟨request, .replaced number marker (.ok edition)⟩ :=
    Option.some.inj (again.symm.trans asked)
  cases moved with
  | settle asked' known =>
      obtain rfl := Option.some.inj caller
      obtain ⟨-, again⟩ := Call.mk.inj (same asked')
      obtain ⟨rfl, rfl, outcome⟩ := Phase.replaced.inj again
      obtain rfl := Except.ok.inj outcome
      exact .inl ⟨_, known, rfl⟩
  | finish asked' ends =>
      obtain rfl := Option.some.inj (ends.caller.symm.trans caller)
      obtain ⟨-, rfl⟩ := Call.mk.inj (same asked')
      cases ends with
      | failed _ fails => cases fails
      | abandoned => exact .inr ⟨rfl, rfl⟩
  | fail asked' _ fails =>
      obtain rfl := Option.some.inj caller
      obtain ⟨-, rfl⟩ := Call.mk.inj (same asked')
      cases fails
  | enter new =>
      obtain rfl := Option.some.inj caller
      simp [asked] at new
  | advance asked' advanced | ask asked' advanced =>
      obtain rfl := Option.some.inj ((advances_caller advanced).symm.trans caller)
      simp [asked] at asked'
  | create asked' | queue asked' | strike asked' | drain asked' | query asked' | fetch asked'
  | restart asked' | forget asked' | answer asked' | hear asked' | take asked' | unlist asked'
  | release asked' | shutGate asked' | sealUp asked' =>
      obtain rfl := Option.some.inj caller
      simp [asked] at asked'
  | prepare working | place working | clean working | discard working =>
      obtain rfl := Option.some.inj caller
      simp [idle] at working
  | reap | elapse | age | lose | removeDirectory => contradiction

/-- What a call leaves of an entry when it ends. -/
theorem finish_entry {result : Result} {later : Entry}
    (known : Service.entry? (before.finish who result) number = some later) :
    ∃ entry, before.entry? number = some entry ∧ Agrees entry later := by
  -- Ending takes no licence: it gives back what the call has, and drops what nobody refers to.
  let none : Licence := ⟨fun _ => False, fun _ _ _ => False, fun _ => False⟩
  obtain ⟨middle, frames, same, -⟩ := finish_frame before who result
  have frame := frames none
  rw [same, entry?_sweep] at known
  split at known
  · cases found : before.entry? number with
    | none => simp [frame.missing number found] at known
    | some entry =>
        obtain ⟨_, again, becomes⟩ := frame.entries number entry found
        obtain rfl := Option.some.inj (known.symm.trans again)
        rcases becomes.settled with ⟨marked, current⟩ | ⟨_, licensed, -⟩
        · exact ⟨entry, rfl, becomes.printer, becomes.file, marked, current⟩
        · exact licensed.elim
  · contradiction

/-- Where the document of an answer that a refresh has comes from. -/
theorem reply_source {number : Nat} {exchange : Exchange (PpdReply Nat)}
    (moved : before.Move event after) (caller : event.caller? = some who)
    (found : after.call? who = some ⟨request, .fetching number exchange⟩)
    (replied : exchange.reply? = some (.document download marker)) :
    (∃ earlier, before.call? who = some ⟨request, .fetching number earlier⟩ ∧
      earlier.reply? = some (.document download marker)) ∨
    ∃ bytes, event = .answered who (.ok (.ppd (.document bytes marker))) ∧
      download = before.disk.nextDownload ∧ after.disk = before.disk.download bytes := by
  have becomes {asks : Request} {last : Phase} (now : after.call? who = some ⟨asks, last⟩) :
      request = asks ∧ .fetching number exchange = last :=
    Call.mk.inj (Option.some.inj (found.symm.trans now))
  cases moved with
  | advance asked advanced =>
      obtain rfl := Option.some.inj ((advances_caller advanced).symm.trans caller)
      obtain ⟨rfl, again⟩ := becomes (call?_setPhase_self asked)
      obtain ⟨rfl, rfl⟩ := Phase.fetching.inj again
      exact .inl ⟨_, asked, reply?_of_advances advanced replied⟩
  | @answer _ _ _ _ _ reply _ _ _ asked received answered =>
      obtain rfl := Option.some.inj caller
      rw [(received_inv received).1] at becomes
      obtain ⟨rfl, again⟩ := becomes (call?_setPhase_self asked)
      obtain ⟨rfl, rfl⟩ := Phase.fetching.inj again
      have heard := Option.some.inj (replied.symm.trans (Exchange.reply?_of_answered answered))
      cases reply with
      | unchanged =>
          obtain ⟨-, rfl⟩ := Prod.mk.inj received
          contradiction
      | document bytes other =>
          obtain ⟨rfl, rfl⟩ := Prod.mk.inj received
          obtain ⟨rfl, rfl⟩ := PpdReply.document.inj heard
          exact .inr ⟨bytes, rfl, rfl, rfl⟩
  | fetch asked =>
      obtain rfl := Option.some.inj caller
      obtain ⟨rfl, again⟩ := becomes (call?_setPhase_self asked)
      obtain ⟨rfl, rfl⟩ := Phase.fetching.inj again
      contradiction
  | prepare | place =>
      exact .inl ⟨exchange, found, replied⟩
  | clean =>
      obtain rfl := Option.some.inj caller
      unfold deliver at found becomes
      split at found
      · rename_i doing
        obtain ⟨call, asked, -⟩ := call?_of_phase? doing
        simp only [doing] at becomes
        obtain ⟨-, again⟩ := becomes (call?_setPhase_self asked)
        contradiction
      · exact .inl ⟨exchange, found, replied⟩
  | discard =>
      obtain rfl := Option.some.inj caller
      rw [discardStep_call?] at found becomes
      unfold acknowledge at found becomes
      split at found
      · rename_i doing
        obtain ⟨call, asked, -⟩ := call?_of_phase? doing
        simp only [doing] at becomes
        obtain ⟨-, again⟩ := becomes (call?_setPhase_self asked)
        contradiction
      · exact .inl ⟨exchange, found, replied⟩
  | enter new =>
      obtain rfl := Option.some.inj caller
      obtain ⟨-, again⟩ := becomes (call?_enter new)
      contradiction
  | unlist asked =>
      obtain rfl := Option.some.inj caller
      obtain ⟨-, again⟩ := becomes (call?_setPhase_self (strikeEntry_call?.trans asked))
      contradiction
  | settle asked =>
      obtain rfl := Option.some.inj caller
      obtain ⟨-, again⟩ := becomes (finish_call? (call?_setEntry.trans asked))
      contradiction
  | @sealUp who _ _ asked =>
      obtain rfl := Option.some.inj caller
      have sealed : Service.call? { before with pool := before.pool.sealUp } who = _ := asked
      obtain ⟨-, again⟩ := becomes (finish_call? sealed)
      contradiction
  | finish asked ends =>
      obtain rfl := Option.some.inj (ends.caller.symm.trans caller)
      obtain ⟨-, again⟩ := becomes (finish_call? asked)
      contradiction
  | ask asked advanced =>
      obtain rfl := Option.some.inj ((advances_caller advanced).symm.trans caller)
      obtain ⟨-, again⟩ := becomes (call?_setPhase_self asked)
      contradiction
  | hear asked received =>
      obtain rfl := Option.some.inj caller
      rw [(receivedAny_inv received).1] at becomes
      obtain ⟨-, again⟩ := becomes (call?_setPhase_self asked)
      contradiction
  | @restart who number _ _ _ asked =>
      obtain rfl := Option.some.inj caller
      have unlocked : (before.unlock who number).call? who = _ := asked
      obtain ⟨-, again⟩ := becomes (call?_setPhase_self unlocked)
      contradiction
  | create asked | queue asked | strike asked | drain asked | query asked | forget asked
  | take asked | fail asked | release asked | shutGate asked =>
      obtain rfl := Option.some.inj caller
      obtain ⟨-, again⟩ := becomes (call?_setPhase_self asked)
      contradiction
  | reap | elapse | age | lose | removeDirectory => contradiction

end PrintConnector.Service
