import PrintConnector.Proofs.Service.Career

namespace PrintConnector.Service

open Cache (Disk Edition Entry FileName Snapshot)

variable {service before after : Service} {event : Event} {events : List Event}
  {who number : Nat} {printer : String} {request : Request} {phase next : Phase} {entry : Entry}
  {snapshot : Snapshot} {reply : PpdReply (List UInt8)}

/-- Files may go away, but nothing is written, on disk or in an entry. -/
structure Unwritten (before after : Service) : Prop where
  files : ∀ name, after.disk.content? name = before.disk.content? name ∨
    after.disk.content? name = none
  staged : ∀ who, after.disk.staged.entry? who = before.disk.staged.entry? who
  downloads : ∀ download bytes, after.disk.downloads.entry? download = some bytes →
    before.disk.downloads.entry? download = some bytes
  entries : ∀ number entry later, before.entry? number = some entry →
    after.entry? number = some later → Agrees entry later

theorem finish_nextDownload (service : Service) (who : Nat) (result : Result) :
    (service.finish who result).disk.nextDownload = service.disk.nextDownload := by
  obtain ⟨middle, -, same, -, disk, -⟩ := finish_frame service who result
  rw [same, sweep_disk, ← disk]

/-- Downloads come with answers only. -/
theorem nextDownload_of_move (moved : before.Move event after)
    (caller : event.caller? = some who) (idle : before.jobs.entry? who = none)
    (silent : ∀ bytes marker, event ≠ .answered who (.ok (.ppd (.document bytes marker)))) :
    after.disk.nextDownload = before.disk.nextDownload := by
  cases moved with
  | create _ _ created =>
      obtain rfl := Disk.create_inv created
      rfl
  | @answer _ _ _ _ _ reply _ _ _ _ received =>
      obtain rfl := Option.some.inj caller
      cases reply with
      | document bytes marker => exact absurd rfl (silent bytes marker)
      | unchanged =>
          obtain ⟨rfl, rfl⟩ := Prod.mk.inj received
          rfl
  | @hear _ _ _ _ _ reply _ _ _ _ received =>
      obtain rfl := Option.some.inj caller
      rcases reply with (_ | ⟨bytes, marker⟩) | _ | _
      · obtain ⟨rfl, rfl⟩ := Prod.mk.inj received
        rfl
      · exact absurd rfl (silent bytes marker)
      · obtain ⟨rfl, rfl⟩ := Prod.mk.inj received
        rfl
      · obtain ⟨rfl, rfl⟩ := Prod.mk.inj received
        rfl
  | restart => rw [sweep_disk]; rfl
  | finish => rw [finish_nextDownload]
  | sealUp => rw [finish_nextDownload]
  | settle => rw [finish_nextDownload]; rfl
  | @unlist _ number _ _ entry =>
      obtain ⟨listing, same⟩ := strikeEntry_eq before number entry
      rw [same]
      rfl
  | prepare working | place working | clean working | discard working =>
      obtain rfl := Option.some.inj caller
      simp [idle] at working
  | reap | elapse | age | lose | removeDirectory => contradiction
  | _ => rfl

/-- A call without a job that makes no entry and gets no document writes nothing. -/
theorem Orderly.unwritten (orderly : before.Orderly) (taken : before.step? event = some after)
    (caller : event.caller? = some who) (idle : before.jobs.entry? who = none)
    (rests : after.jobs.entry? who = none)
    (old : ∀ number printer, ¬ Creates before after who number printer)
    (silent : ∀ bytes marker, event ≠ .answered who (.ok (.ppd (.document bytes marker))))
    (unsettled : ∀ number marker edition, ¬ before.Settles who number marker edition) :
    before.Unwritten after := by
  have moved := move_of_step taken
  have course := orderly.course moved caller
  have order := orderly.step taken
  refine { files := ?_, staged := ?_, downloads := ?_, entries := ?_ }
  · intro name
    rcases course.files name with same | places | ⟨printer, creates, -⟩ | ⟨_, -, -, dropped⟩
    · exact .inl same
    · obtain ⟨download, copy, working, -⟩ := places
      simp [idle] at working
    · exact absurd creates (old _ printer)
    · exact .inr dropped.empty
  · intro other
    by_cases same : other = who
    · subst same
      rw [orderly.unstaged idle, order.unstaged rests]
    · exact course.staged other same
  · intro download bytes there
    have early : download < before.disk.nextDownload := by
      rw [← nextDownload_of_move moved caller idle silent]
      by_contra late
      simp [order.counted download (Nat.not_lt.mp late)] at there
    exact course.downloads download bytes early there
  · intro number entry later known there
    rcases course.entries number entry known with ⟨same, again, becomes⟩ | dropped
    · obtain rfl := Option.some.inj (there.symm.trans again)
      rcases becomes.settled with ⟨marker, current⟩ | ⟨edition, settles, -⟩
      · exact ⟨becomes.printer, becomes.file, marker, current⟩
      · exact absurd settles (unsettled _ _ _)
    · simp [dropped.missing] at there

/-- Phases of a call that the server has answered for good, or that asks for no
document any more. -/
def Phase.isAnswered : Phase → Bool
  | .starting | .queued _ => false
  | .fetching _ exchange => exchange.reply?.isSome
  | _ => true

theorem Phase.Next.answered (turned : phase.Next next) (answered : phase.isAnswered = true) :
    next.isAnswered = true := by
  cases turned with
  | stay => exact answered
  | advance keeps =>
      obtain ⟨reply, known⟩ := Option.isSome_iff_exists.mp answered
      exact Option.isSome_iff_exists.mpr ⟨reply, keeps reply known⟩
  | queue | fetch | restart => contradiction
  | _ => rfl

theorem Phase.works_unheard (unheard : phase.isAnswered = false) : phase.works = false := by
  cases phase with
  | starting | queued _ | fetching _ _ => rfl
  | _ => contradiction

theorem Orderly.idle_unheard (orderly : service.Orderly)
    (unheard : ∀ call, service.call? who = some call → call.phase.isAnswered = false) :
    service.jobs.entry? who = none := by
  cases working : service.jobs.entry? who with
  | none => rfl
  | some job =>
      obtain ⟨⟨request, phase⟩, asked⟩ := orderly.jobs who job working
      rw [← working]
      exact orderly.idle asked (Phase.works_unheard (unheard _ asked))

/-- A call that has not been answered has written nothing, unless it has made an
entry. -/
theorem Orderly.unwritten_early (orderly : before.Orderly)
    (taken : before.step? event = some after) (caller : event.caller? = some who)
    (early : ∀ call, before.call? who = some call → call.phase.isAnswered = false)
    (unheard : ∀ call, after.call? who = some call → call.phase.isAnswered = false)
    (old : ∀ number printer, ¬ Creates before after who number printer) :
    before.Unwritten after := by
  refine orderly.unwritten taken caller (orderly.idle_unheard early)
    ((orderly.step taken).idle_unheard unheard) old ?_ ?_
  · rintro bytes marker rfl
    have moved := move_of_step taken
    cases moved with
    | answer asked received answered =>
        rw [(received_inv received).1] at unheard
        have late := unheard _ (call?_setPhase_self asked)
        simp [Phase.isAnswered, Exchange.reply?_of_answered answered] at late
    | hear asked received =>
        have late := early _ asked
        contradiction
    | advance _ advanced | ask _ advanced => cases advanced
    | finish _ ends => cases ends
  · intro number marker edition settles
    obtain ⟨call, asked, doing⟩ := call?_of_phase? settles
    have late := early call asked
    rw [doing] at late
    contradiction

/-- A refresh has been told that nothing has changed, and it gives out what its entry
holds. -/
inductive Confirms (service : Service) (who : Nat) (printer : String) (snapshot : Snapshot) :
    Prop where
  | waiting {number : Nat} {exchange : Exchange (PpdReply Nat)} {entry : Entry}
      (asked : service.call? who = some ⟨.refresh printer, .fetching number exchange⟩)
      (replied : exchange.reply? = some .unchanged) (known : service.entry? number = some entry)
      (holds : entry.snapshot? = some snapshot) : Confirms service who printer snapshot
  | finished (asked : service.call? who =
      some ⟨.refresh printer, .finished (.refreshed (.ok snapshot))⟩) :
      Confirms service who printer snapshot

theorem Confirms.idle (confirms : service.Confirms who printer snapshot)
    (orderly : service.Orderly) : service.jobs.entry? who = none := by
  cases confirms with
  | waiting asked => exact orderly.idle asked rfl
  | finished asked => exact orderly.idle asked rfl

theorem Confirms.other (confirms : before.Confirms who printer snapshot)
    (orderly : before.Orderly) (taken : before.step? event = some after)
    (different : event.caller? ≠ some who) : after.Confirms who printer snapshot := by
  obtain ⟨calls, -⟩ := orderly.stays taken different
  cases confirms with
  | waiting asked replied known holds =>
      have held := orderly.held_of_grips ⟨_, _, asked, rfl⟩ known
      obtain ⟨later, there, agrees, -⟩ := orderly.kept taken different asked rfl known held
      refine .waiting (calls.trans asked) replied there ?_
      rw [Entry.snapshot?, agrees.current, agrees.file]
      exact holds
  | finished asked => exact .finished (calls.trans asked)

/-- From the word that nothing has changed a refresh goes straight to its end. -/
theorem Orderly.confirms_own {exchange : Exchange (PpdReply Nat)} (orderly : before.Orderly)
    (moved : before.Move event after) (caller : event.caller? = some who)
    (asked : before.call? who = some ⟨.refresh printer, .fetching number exchange⟩)
    (replied : exchange.reply? = some .unchanged) (known : before.entry? number = some entry)
    (holds : entry.snapshot? = some snapshot) : after.Confirms who printer snapshot := by
  have same {call : Call} (again : before.call? who = some call) :
      call = ⟨.refresh printer, .fetching number exchange⟩ :=
    Option.some.inj (again.symm.trans asked)
  have idle := orderly.idle asked rfl
  have position := Exchange.position_of_reply replied
  have held : ¬ entry.current = none := by
    intro empty
    simp [Entry.snapshot?, empty] at holds
  cases moved with
  | enter new =>
      obtain rfl := Option.some.inj caller
      simp [new] at asked
  | advance again advanced =>
      obtain rfl := Option.some.inj ((advances_caller advanced).symm.trans caller)
      obtain ⟨rfl, fetching⟩ := Call.mk.inj (same again)
      obtain ⟨rfl, rfl⟩ := Phase.fetching.inj fetching
      exact .waiting (call?_setPhase_self again) (reply?_advances advanced replied) known holds
  | answer again _ answered =>
      obtain rfl := Option.some.inj caller
      obtain ⟨-, fetching⟩ := Call.mk.inj (same again)
      obtain ⟨rfl, rfl⟩ := Phase.fetching.inj fetching
      simp [Exchange.answered_position answered] at position
  | take again ended =>
      obtain rfl := Option.some.inj caller
      obtain ⟨-, fetching⟩ := Call.mk.inj (same again)
      obtain ⟨rfl, rfl⟩ := Phase.fetching.inj fetching
      simp [ended] at position
  | fail again there fails empty =>
      obtain rfl := Option.some.inj caller
      obtain ⟨-, rfl⟩ := Call.mk.inj (same again)
      have handle := Option.some.inj fails.handle
      subst handle
      obtain rfl := Option.some.inj (known.symm.trans there)
      exact absurd empty held
  | finish again ends =>
      obtain rfl := Option.some.inj (ends.caller.symm.trans caller)
      obtain ⟨rfl, rfl⟩ := Call.mk.inj (same again)
      cases ends with
      | confirmed there ended current =>
          obtain rfl := Option.some.inj (known.symm.trans there)
          rw [Entry.snapshot?, current] at holds
          obtain rfl := Option.some.inj holds
          exact .finished (finish_call? again)
      | failed there fails current =>
          cases fails with
          | request ended => simp [ended] at position
          | unchanged _ empty => simp [empty] at current
      | stopped ended => simp [ended] at position
      | abandoned => contradiction
  | create again | queue again | strike again | drain again | query again | fetch again
  | restart again | forget again | settle again | unlist again | release again | shutGate again
  | sealUp again | hear again =>
      obtain rfl := Option.some.inj caller
      obtain ⟨-, fetching⟩ := Call.mk.inj (same again)
      contradiction
  | ask again advanced =>
      obtain rfl := Option.some.inj ((advances_caller advanced).symm.trans caller)
      obtain ⟨-, fetching⟩ := Call.mk.inj (same again)
      contradiction
  | prepare working | place working | clean working | discard working =>
      obtain rfl := Option.some.inj caller
      simp [idle] at working
  | reap | elapse | age | lose | removeDirectory => contradiction

theorem Confirms.step (confirms : before.Confirms who printer snapshot) (orderly : before.Orderly)
    (taken : before.step? event = some after) : after.Confirms who printer snapshot := by
  by_cases caller : event.caller? = some who
  · cases confirms with
    | waiting asked replied known holds =>
        exact orderly.confirms_own (move_of_step taken) caller asked replied known holds
    | finished asked =>
        obtain ⟨next, found, turned⟩ := orderly.next_phase taken asked
        obtain rfl := turned.finished
        exact .finished found
  · exact confirms.other orderly taken caller

theorem Confirms.unwritten (confirms : before.Confirms who printer snapshot)
    (orderly : before.Orderly) (taken : before.step? event = some after)
    (caller : event.caller? = some who)
    (silent : ∀ bytes marker, event ≠ .answered who (.ok (.ppd (.document bytes marker)))) :
    before.Unwritten after := by
  have idle := (confirms.step orderly taken).idle (orderly.step taken)
  refine orderly.unwritten taken caller (confirms.idle orderly) idle ?_ silent ?_
  · intro number printer creates
    have starting := creates.asked
    cases confirms with
    | waiting asked | finished asked => simp [asked] at starting
  · intro number marker edition settles
    obtain ⟨call, again, doing⟩ := call?_of_phase? settles
    cases confirms with
    | waiting asked | finished asked =>
        obtain rfl := Option.some.inj (asked.symm.trans again)
        contradiction

def Refreshing (service : Service) : Prop :=
  ∀ who call, service.call? who = some call → ∃ printer, call.request = .refresh printer

/-- A refresh has made an entry, and it has the entry as it made it until the server
has answered. -/
inductive Founds (service : Service) (who : Nat) : Prop where
  | holds {printer : String} {number : Nat} {phase : Phase} {entry : Entry}
      (asked : service.call? who = some ⟨.refresh printer, phase⟩)
      (handle : phase.handle? = some number) (known : service.entry? number = some entry)
      (held : entry.isHeldBy who = true) (empty : entry.current = none)
      (listed : service.listed? printer = some number) : Founds service who
  | answered {call : Call} (asked : service.call? who = some call)
      (answered : call.phase.isAnswered = true) : Founds service who

theorem Orderly.founds_own (orderly : before.Orderly) (moved : before.Move event after)
    (caller : event.caller? = some who) (asked : before.call? who = some ⟨.refresh printer, phase⟩)
    (unheard : phase.isAnswered = false) (handle : phase.handle? = some number)
    (known : before.entry? number = some entry) (held : entry.isHeldBy who = true)
    (empty : entry.current = none) (listed : before.listed? printer = some number) :
    after.Founds who := by
  have same {call : Call} (again : before.call? who = some call) :
      call = ⟨.refresh printer, phase⟩ := Option.some.inj (again.symm.trans asked)
  have idle := orderly.idle asked (Phase.works_unheard unheard)
  cases moved with
  | enter new =>
      obtain rfl := Option.some.inj caller
      simp [new] at asked
  | create again | queue again | strike again | drain again | query again =>
      obtain rfl := Option.some.inj caller
      obtain ⟨-, rfl⟩ := Call.mk.inj (same again)
      contradiction
  | fetch again =>
      obtain rfl := Option.some.inj caller
      obtain ⟨-, rfl⟩ := Call.mk.inj (same again)
      exact .holds (call?_setPhase_self asked) handle known held empty listed
  | restart again _ _ unlisted =>
      obtain rfl := Option.some.inj caller
      obtain ⟨about, rfl⟩ := Call.mk.inj (same again)
      obtain rfl := Request.refresh.inj about
      obtain rfl := Option.some.inj handle
      exact absurd listed unlisted
  | forget again =>
      obtain rfl := Option.some.inj caller
      obtain ⟨about, -⟩ := Call.mk.inj (same again)
      contradiction
  | advance again advanced =>
      obtain rfl := Option.some.inj ((advances_caller advanced).symm.trans caller)
      obtain ⟨-, rfl⟩ := Call.mk.inj (same again)
      exact .holds (call?_setPhase_self asked) handle known held empty listed
  | answer again received answered =>
      obtain rfl := Option.some.inj caller
      obtain ⟨-, rfl⟩ := Call.mk.inj (same again)
      rw [(received_inv received).1]
      refine .answered (call?_setPhase_self asked) ?_
      exact Option.isSome_iff_exists.mpr ⟨_, Exchange.reply?_of_answered answered⟩
  | take again | fail again =>
      obtain rfl := Option.some.inj caller
      exact .answered (call?_setPhase_self again) rfl
  | finish again ends =>
      obtain rfl := Option.some.inj (ends.caller.symm.trans caller)
      exact .answered (finish_call? again) rfl
  | settle again | unlist again | release again | shutGate again | sealUp again | hear again =>
      obtain rfl := Option.some.inj caller
      obtain ⟨-, rfl⟩ := Call.mk.inj (same again)
      contradiction
  | ask again advanced =>
      obtain rfl := Option.some.inj ((advances_caller advanced).symm.trans caller)
      obtain ⟨-, rfl⟩ := Call.mk.inj (same again)
      contradiction
  | prepare working | place working | clean working | discard working =>
      obtain rfl := Option.some.inj caller
      simp [idle] at working
  | reap | elapse | age | lose | removeDirectory => contradiction

/-- Among refreshes nobody strikes an entry off the list that another one has
locked. -/
theorem Orderly.listed_other (orderly : before.Orderly) (refreshing : before.Refreshing)
    (taken : before.step? event = some after) (different : event.caller? ≠ some who)
    (known : before.entry? number = some entry) (held : entry.isHeldBy who = true)
    (listed : before.listed? printer = some number) : after.listed? printer = some number := by
  have moved := move_of_step taken
  cases caller : event.caller? with
  | some mover =>
      rcases (orderly.course moved caller).struck printer number listed with kept | strikes
      · exact kept
      · rcases strikes with ⟨asked, -⟩ | asked | asked
        · obtain ⟨other, about⟩ := refreshing mover _ asked
          contradiction
        · obtain ⟨other, about⟩ := refreshing mover _ asked
          contradiction
        · obtain ⟨other, -, holds⟩ := (orderly.calls mover _ asked).grip number rfl
          have mine : before.Holds who number entry.printer := ⟨entry, known, held, rfl⟩
          obtain rfl : who = mover := holds.unique mine
          exact absurd caller different
  | none =>
      cases moved.aside caller with
      | pool | lose | removeDirectory => exact listed

theorem Founds.step (founds : before.Founds who) (orderly : before.Orderly)
    (refreshing : before.Refreshing) (taken : before.step? event = some after) :
    after.Founds who := by
  have moved := move_of_step taken
  cases founds with
  | @answered call asked answered =>
      obtain ⟨request, phase⟩ := call
      obtain ⟨next, found, turned⟩ := orderly.next_phase taken asked
      exact .answered found (turned.answered answered)
  | @holds printer number phase entry asked handle known held empty listed =>
      cases heard : phase.isAnswered with
      | true =>
          obtain ⟨next, found, turned⟩ := orderly.next_phase taken asked
          exact .answered found (turned.answered heard)
      | false =>
          by_cases caller : event.caller? = some who
          · exact orderly.founds_own moved caller asked heard handle known held empty listed
          · obtain ⟨later, there, agrees, first⟩ :=
              orderly.kept taken caller asked handle known held
            refine .holds ((orderly.stays taken caller).1.trans asked) handle there first
              (agrees.current.trans empty) ?_
            exact orderly.listed_other refreshing taken caller known held listed

theorem Creates.founds (creates : Creates before after who number printer) :
    after.Founds who :=
  .holds creates.queued rfl creates.known (decide_eq_true rfl) rfl creates.listed

end PrintConnector.Service
