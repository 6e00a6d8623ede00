import PrintConnector.Proofs.Service.World

namespace PrintConnector.Service

open Cache (Copy Disk Edition Entry FileName Snapshot)

variable {service before after : Service} {event : Event} {who number download : Nat}
  {printer : String} {request : Request} {phase next : Phase} {publication : Publication}
  {telling : Telling} {entry : Entry} {target : FileName} {progress later : Replacement}
  {bytes : List UInt8} {disk last : Disk}

/-- A download, if it is still there, is a document. -/
def Brings (disk : Disk) (download : Nat) (bytes : List UInt8) : Prop :=
  download < disk.nextDownload ∧
    ∀ found, disk.downloads.entry? download = some found → found = bytes

/-- What a replacement is about to put in place is a document. -/
def Replacement.Copies (disk : Disk) (download : Nat) (bytes : List UInt8) : Replacement → Prop
  | .opening => Brings disk download bytes
  | .staging read => read = bytes
  | .copying rest copy => copy.IsSound ∧ copy.contents ++ rest = bytes
  | .placing copy => copy.IsSound ∧ copy.contents = bytes
  | .cleaning (.ok edition) => edition.IsOf bytes
  | .cleaning (.error _) => True

/-- From the answer on, everything that a refresh goes through carries the document that
the answer was about, up to what the refresh gives out. -/
inductive Carries (service : Service) (who : Nat) (publication : Publication) : Phase → Prop where
  | unchanged {number : Nat} {exchange : Exchange (PpdReply Nat)} {entry : Entry}
      (replied : exchange.reply? = some .unchanged) (known : service.entry? number = some entry)
      (marked : entry.marker = publication.marker) (present : entry.marker ≠ none) :
      Carries service who publication (.fetching number exchange)
  | received {number download : Nat} {exchange : Exchange (PpdReply Nat)}
      (replied : exchange.reply? = some (.document download publication.marker))
      (brings : Brings service.disk download publication.bytes) :
      Carries service who publication (.fetching number exchange)
  | replacing {number download : Nat} {marker : Option String} {target : FileName}
      {progress : Replacement} (marked : marker = publication.marker)
      (working : service.jobs.entry? who = some (.replace download target progress))
      (copies : progress.Copies service.disk download publication.bytes) :
      Carries service who publication (.replacing number marker)
  | replaced {number : Nat} {marker : Option String} {edition : Edition}
      (marked : marker = publication.marker) (isOf : edition.IsOf publication.bytes) :
      Carries service who publication (.replaced number marker (.ok edition))
  | refreshed {snapshot : Snapshot} (isOf : snapshot.edition.IsOf publication.bytes) :
      Carries service who publication (.finished (.refreshed (.ok snapshot)))

/-- Phases that carry a document, or the word that it has not changed. -/
def Phase.bears : Phase → Bool
  | .fetching _ exchange => exchange.reply?.isSome
  | .replacing .. => true
  | .replaced _ _ outcome => outcome.isOk
  | .finished (.refreshed outcome) => outcome.isOk
  | _ => false

/-- A marker tells what an entry of a printer holds. -/
def Vouches (service : Service) (printer : String) (publication : Publication) : Prop :=
  ∀ number entry edition, service.entry? number = some entry → entry.printer = printer →
    entry.marker = publication.marker → entry.marker ≠ none → entry.current = some edition →
      edition.IsOf publication.bytes

theorem Brings.fade (brings : Brings disk download bytes)
    (counted : disk.nextDownload ≤ last.nextDownload)
    (fades : ∀ number found, number < disk.nextDownload →
      last.downloads.entry? number = some found → disk.downloads.entry? number = some found) :
    Brings last download bytes := by
  obtain ⟨early, same⟩ := brings
  refine ⟨Nat.lt_of_lt_of_le early counted, ?_⟩
  intro found there
  exact same found (fades download found early there)

theorem brings_download (counted : disk.IsCounted) :
    Brings (disk.download bytes) disk.nextDownload bytes := by
  refine ⟨Nat.lt_succ_self _, ?_⟩
  intro found there
  change Roster.entry? (disk.downloads.add disk.nextDownload _) _ = _ at there
  rw [Roster.entry_add, counted _ (Nat.le_refl _), if_pos rfl] at there
  exact (Option.some.inj there).symm

theorem Replacement.Copies.fade (copies : progress.Copies disk download bytes)
    (counted : disk.nextDownload ≤ last.nextDownload)
    (fades : ∀ number found, number < disk.nextDownload →
      last.downloads.entry? number = some found → disk.downloads.entry? number = some found) :
    progress.Copies last download bytes := by
  cases progress with
  | opening => exact Brings.fade copies counted fades
  | staging read => exact copies
  | copying rest copy => exact copies
  | placing copy => exact copies
  | cleaning outcome => cases outcome <;> exact copies

theorem Replacement.Copies.prepared (copies : progress.Copies disk download bytes)
    (prepared : Prepares disk who download target progress last later) :
    later.Copies last download bytes := by
  cases prepared with
  | read read => exact copies.2 _ (Disk.readDownload_inv read)
  | unread => trivial
  | stage => exact ⟨Copy.isSound_empty, copies⟩
  | unstaged => trivial
  | @append _ rest copy =>
      obtain ⟨sound, whole⟩ := copies
      split
      · rename_i empty
        rw [List.isEmpty_iff.mp empty, List.append_nil] at whole
        exact ⟨sound, whole⟩
      · refine ⟨sound.add _, ?_⟩
        rw [Copy.add, List.append_assoc, List.take_append_drop]
        exact whole
  | unwritten => trivial
  | unplaced => trivial

theorem Orderly.carries_other (orderly : before.Orderly) (taken : before.step? event = some after)
    (different : event.caller? ≠ some who) (found : before.call? who = some ⟨request, phase⟩)
    (carries : before.Carries who publication phase) : after.Carries who publication phase := by
  obtain ⟨calls, jobs⟩ := orderly.stays taken different
  obtain ⟨counted, fades⟩ := orderly.downloads_fade taken
  cases carries with
  | unchanged replied known marked present =>
      have held := orderly.held_of_grips ⟨_, _, found, rfl⟩ known
      obtain ⟨later, there, agrees, -⟩ := orderly.kept taken different found rfl known held
      rw [← agrees.marker] at marked present
      exact .unchanged replied there marked present
  | received replied brings => exact .received replied (brings.fade counted fades)
  | replacing marked working copies =>
      exact .replacing marked (jobs.trans working) (copies.fade counted fades)
  | replaced marked isOf => exact .replaced marked isOf
  | refreshed isOf => exact .refreshed isOf

theorem not_loses_of_advances {α : Type} {exchange next : Exchange α} {pool last : Pool} {reply : α}
    (advanced : exchange.Advances pool who event last next) (known : next.reply? = some reply)
    (other : Nat) : ¬ World.Loses other event := by
  cases advanced with
  | go | connected | reconnected => exact id
  | failed answered => simpa using Exchange.reply?_answered answered known
  | abandoned abandoned => simp [Exchange.reply?_abandon abandoned] at known

/-- What a refresh carries after a move it has carried before. -/
def HandsOn (before after : Service) (who : Nat) (printer : String) (phase next : Phase) : Prop :=
  phase.bears = true ∧ ∀ publication, before.Vouches printer publication →
    before.Carries who publication phase → after.Carries who publication next

theorem Orderly.handsOn_finish (orderly : before.Orderly)
    (asked : before.call? who = some ⟨.refresh printer, phase⟩)
    (ends : Ends before who event (.refresh printer) phase result)
    (bears : (Phase.finished result).bears = true) :
    HandsOn before after who printer phase (.finished result) ∧
      ∀ other, ¬ World.Loses other event := by
  have fits := orderly.calls who _ asked
  cases ends with
  | @confirmed _ _ number entry exchange edition there ended current =>
      refine ⟨⟨by simp [Phase.bears, Exchange.reply?, ended], ?_⟩, fun _ => id⟩
      intro publication vouches carries
      cases carries with
      | @unchanged _ _ again _ present marked marker =>
          obtain rfl := Option.some.inj (there.symm.trans present)
          obtain ⟨holds, known, named⟩ := fits.handle number rfl
          obtain rfl := Option.some.inj (there.symm.trans known)
          have isPrinter := named printer rfl
          exact .refreshed (vouches number _ edition there isPrinter marked marker current)
      | received had => simp [Exchange.reply?, ended] at had
  | discarded =>
      cases fits.suits with
      | gripping grip => contradiction
      | discarded discards =>
          cases discards
          contradiction
  | answered =>
      cases fits.suits with
      | gripping grip => contradiction
  | uncreated | read | failed | stopped | abandoned => contradiction

/-- A job hands on what the refresh that it is done for carries. -/
theorem Orderly.handsOn_work (orderly : before.Orderly) {fault : Option Cache.Fault}
    (moved : before.Move (.work who fault) after)
    (found : before.call? who = some ⟨.refresh printer, phase⟩)
    (known : after.call? who = some ⟨.refresh printer, next⟩) (bears : next.bears = true) :
    HandsOn before after who printer phase next := by
  have becomes {request : Request} {last : Phase} (now : after.call? who = some ⟨request, last⟩) :
      last = next := (Call.mk.inj (Option.some.inj (now.symm.trans known))).2
  have fits := orderly.calls who _ found
  cases moved with
  | prepare working prepared =>
      obtain rfl := becomes found
      refine ⟨bears, ?_⟩
      intro publication vouches carries
      cases carries with
      | replacing marked already copies =>
          obtain ⟨rfl, rfl, rfl⟩ := Job.replace.inj (Option.some.inj (already.symm.trans working))
          exact .replacing marked (jobs_setJob working) (copies.prepared prepared)
      | unchanged | received | replaced | refreshed =>
          have idle := orderly.idle found rfl
          simp [working] at idle
  | place working =>
      obtain rfl := becomes found
      refine ⟨bears, ?_⟩
      intro publication vouches carries
      cases carries with
      | replacing marked already copies =>
          obtain ⟨rfl, rfl, rfl⟩ := Job.replace.inj (Option.some.inj (already.symm.trans working))
          obtain ⟨sound, whole⟩ := copies
          exact .replacing marked (jobs_setJob working) (whole ▸ sound.edition _)
      | unchanged | received | replaced | refreshed =>
          have idle := orderly.idle found rfl
          simp [working] at idle
  | @clean who download target outcome _ working =>
      rcases fits.job _ working with ⟨doing, -⟩ | doing
      · change phase = _ at doing
        subst doing
        obtain rfl := becomes (deliver_call?_replacing found)
        refine ⟨rfl, ?_⟩
        intro publication vouches carries
        cases carries with
        | replacing marked already copies =>
            obtain ⟨rfl, rfl, rfl⟩ := Job.replace.inj (Option.some.inj (already.symm.trans working))
            cases outcome with
            | error error => contradiction
            | ok edition => exact .replaced marked copies
      · change phase = _ at doing
        subst doing
        have ended : Service.call? ({ before with
            disk := before.disk.removeDownload download }.endJob who) who = _ := found
        obtain ⟨last, now, turned⟩ := deliver_call? outcome ended
        obtain rfl := turned.finished
        obtain rfl := becomes now
        contradiction
  | @discard who entries _ working =>
      have kept : (before.discardStep who entries).call? who = _ := discardStep_call? entries
      rcases fits.job _ working with _ | _ | ⟨⟨result, doing⟩ | doing, -⟩
      · change phase = _ at doing
        subst doing
        obtain rfl := becomes (kept.trans (acknowledge_call?_discarding found))
        contradiction
      · change phase = _ at doing
        subst doing
        obtain ⟨last, now, turned⟩ := acknowledge_call? found
        obtain rfl := turned.finished
        obtain rfl := becomes (kept.trans now)
        contradiction
  | advance _ advanced | ask _ advanced => cases advanced
  | finish _ ends => cases ends

/-- Only an answer gives a refresh something new to carry. -/
theorem Orderly.carries_own (orderly : before.Orderly) (moved : before.Move event after)
    (caller : event.caller? = some who) (found : before.call? who = some ⟨.refresh printer, phase⟩)
    (known : after.call? who = some ⟨.refresh printer, next⟩) (bears : next.bears = true)
    (other : ∀ reply, event ≠ .answered who (.ok (.ppd reply))) :
    HandsOn before after who printer phase next ∧ ∀ other, ¬ World.Loses other event := by
  have same {call : Call} (asked : before.call? who = some call) :
      call = ⟨.refresh printer, phase⟩ := Option.some.inj (asked.symm.trans found)
  have becomes {request : Request} {last : Phase} (now : after.call? who = some ⟨request, last⟩) :
      last = next := (Call.mk.inj (Option.some.inj (now.symm.trans known))).2
  have whole := moved
  cases moved with
  | enter new =>
      obtain rfl := Option.some.inj caller
      simp [new] at found
  | create asked | queue asked | strike asked | drain asked | query asked | forget asked
  | release asked | shutGate asked | fetch asked | fail asked =>
      obtain rfl := Option.some.inj caller
      obtain rfl := becomes (call?_setPhase_self asked)
      contradiction
  | @restart who number _ _ _ asked =>
      obtain rfl := Option.some.inj caller
      have unlocked : (before.unlock who number).call? who = _ := asked
      obtain rfl := becomes (call?_setPhase_self unlocked)
      contradiction
  | unlist asked =>
      obtain rfl := Option.some.inj caller
      obtain rfl := becomes (call?_setPhase_self (strikeEntry_call?.trans asked))
      contradiction
  | @sealUp who _ _ asked =>
      obtain rfl := Option.some.inj caller
      have sealed : Service.call? { before with pool := before.pool.sealUp } who = _ := asked
      obtain rfl := becomes (finish_call? sealed)
      contradiction
  | ask asked advanced =>
      obtain rfl := Option.some.inj ((advances_caller advanced).symm.trans caller)
      obtain rfl := becomes (call?_setPhase_self asked)
      contradiction
  | hear asked received =>
      obtain rfl := Option.some.inj caller
      rw [(receivedAny_inv received).1] at becomes
      obtain rfl := becomes (call?_setPhase_self asked)
      contradiction
  | answer =>
      obtain rfl := Option.some.inj caller
      exact absurd rfl (other _)
  | advance asked advanced =>
      obtain rfl := Option.some.inj ((advances_caller advanced).symm.trans caller)
      obtain rfl := becomes (call?_setPhase_self asked)
      obtain ⟨-, rfl⟩ := Call.mk.inj (same asked)
      obtain ⟨reply, replied⟩ := Option.isSome_iff_exists.mp bears
      have earlier := reply?_of_advances advanced replied
      refine ⟨⟨Option.isSome_iff_exists.mpr ⟨reply, earlier⟩, ?_⟩,
        not_loses_of_advances advanced replied⟩
      intro publication vouches carries
      cases carries with
      | unchanged had there marked present =>
          exact .unchanged (reply?_advances advanced had) there marked present
      | received had brings => exact .received (reply?_advances advanced had) brings
  | take asked ended there =>
      obtain rfl := Option.some.inj caller
      have idle := orderly.idle asked rfl
      obtain rfl := becomes (call?_setPhase_self asked)
      obtain ⟨-, rfl⟩ := Call.mk.inj (same asked)
      refine ⟨⟨by simp [Phase.bears, Exchange.reply?, ended], ?_⟩, fun _ => id⟩
      intro publication vouches carries
      cases carries with
      | unchanged had => simp [Exchange.reply?, ended] at had
      | received had brings =>
          obtain ⟨rfl, marked⟩ : _ = _ ∧ _ = publication.marker := by
            simpa [Exchange.reply?, ended] using had
          exact .replacing marked (jobs_addJob idle) brings
  | settle asked =>
      obtain rfl := Option.some.inj caller
      obtain ⟨-, rfl⟩ := Call.mk.inj (same asked)
      obtain rfl := becomes (finish_call? (call?_setEntry.trans asked))
      refine ⟨⟨rfl, ?_⟩, fun _ => id⟩
      intro publication vouches carries
      cases carries with
      | replaced _ isOf => exact .refreshed isOf
  | finish asked ends =>
      obtain rfl := Option.some.inj (ends.caller.symm.trans caller)
      obtain ⟨rfl, rfl⟩ := Call.mk.inj (same asked)
      obtain rfl := becomes (finish_call? asked)
      exact orderly.handsOn_finish asked ends bears
  | prepare | place | clean | discard =>
      obtain rfl := Option.some.inj caller
      exact ⟨orderly.handsOn_work whole found known bears, fun _ => id⟩
  | reap | elapse | age | lose | removeDirectory => contradiction

/-- The request of a call is out, and the answer is not in. -/
def Phase.Asks : Phase → Prop
  | .fetching _ exchange => exchange.position = .asking
  | .asking _ exchange => exchange.position = .asking
  | _ => False

theorem Phase.Asks.not_bears (asks : phase.Asks) : phase.bears = false := by
  cases phase with
  | fetching number exchange =>
      change exchange.position = .asking at asks
      simp [Phase.bears, Exchange.reply?, asks]
  | asking query exchange => rfl
  | _ => contradiction

theorem Suits.fetching (suits : Suits (.refresh printer) phase) (asks : phase.Asks) :
    ∃ number exchange, phase = .fetching number exchange ∧ exchange.position = .asking := by
  cases phase with
  | fetching number exchange => exact ⟨number, exchange, rfl, asks⟩
  | asking query exchange =>
      cases suits with
      | gripping grip => contradiction
  | _ => contradiction

theorem advances_asking {α : Type} {exchange next : Exchange α} {pool last : Pool}
    (advanced : exchange.Advances pool who event last next) (asks : exchange.position = .asking) :
    World.Loses who event := by
  obtain ⟨retried, position⟩ := exchange
  change position = _ at asks
  subst asks
  cases advanced with
  | go gone => contradiction
  | connected connected => contradiction
  | reconnected reconnected => contradiction
  | failed answered => rfl
  | abandoned abandoned => rfl

/-- A call that waits for an answer does not move of itself. -/
theorem Orderly.asks_own (orderly : before.Orderly) (moved : before.Move event after)
    (caller : event.caller? = some who) (found : before.call? who = some ⟨request, phase⟩)
    (asks : phase.Asks) : World.Loses who event := by
  have same {call : Call} (asked : before.call? who = some call) : call = ⟨request, phase⟩ :=
    Option.some.inj (asked.symm.trans found)
  have idle : before.jobs.entry? who = none := by
    apply orderly.idle found
    cases phase with
    | fetching _ _ | asking _ _ => rfl
    | _ => contradiction
  cases moved with
  | enter new =>
      obtain rfl := Option.some.inj caller
      simp [new] at found
  | advance asked advanced | ask asked advanced =>
      obtain rfl := Option.some.inj ((advances_caller advanced).symm.trans caller)
      obtain ⟨-, rfl⟩ := Call.mk.inj (same asked)
      exact advances_asking advanced asks
  | answer | hear =>
      obtain rfl := Option.some.inj caller
      rfl
  | take asked ended =>
      obtain rfl := Option.some.inj caller
      obtain ⟨-, rfl⟩ := Call.mk.inj (same asked)
      simp [Phase.Asks, ended] at asks
  | fail asked _ fails =>
      obtain rfl := Option.some.inj caller
      obtain ⟨-, rfl⟩ := Call.mk.inj (same asked)
      cases fails with
      | request ended | unchanged ended => simp [Phase.Asks, ended] at asks
      | replacement => contradiction
  | finish asked ends =>
      obtain rfl := Option.some.inj (ends.caller.symm.trans caller)
      obtain ⟨-, rfl⟩ := Call.mk.inj (same asked)
      cases ends with
      | confirmed _ ended | stopped ended | answered ended => simp [Phase.Asks, ended] at asks
      | failed _ fails =>
          cases fails with
          | request ended | unchanged ended => simp [Phase.Asks, ended] at asks
          | replacement => contradiction
      | abandoned => rfl
      | uncreated | unknown | nothing | read | discarded => contradiction
  | create asked | queue asked | strike asked | drain asked | query asked | fetch asked
  | restart asked | forget asked | settle asked | unlist asked | release asked | shutGate asked
  | sealUp asked =>
      obtain rfl := Option.some.inj caller
      obtain ⟨-, rfl⟩ := Call.mk.inj (same asked)
      contradiction
  | prepare working | place working | clean working | discard working =>
      obtain rfl := Option.some.inj caller
      simp [idle] at working
  | reap | elapse | age | lose | removeDirectory => contradiction

/-- A call waits for what the server has told it. -/
structure Awaits (service : Service) (who : Nat) (telling : Telling) : Prop where
  asks : ∃ call, service.call? who = some call ∧ call.phase.Asks
  replied : ∀ printer number exchange entry,
    service.call? who = some ⟨.refresh printer, .fetching number exchange⟩ →
      service.entry? number = some entry → telling.publication.printer = printer ∧
        ∃ full, telling.reply = telling.publication.reply entry.marker full

theorem Orderly.awaits_step (orderly : before.Orderly) (taken : before.step? event = some after)
    (keeps : ¬ World.Loses who event) (awaits : before.Awaits who telling) :
    after.Awaits who telling := by
  obtain ⟨⟨call, asked, asks⟩, replied⟩ := awaits
  have different : event.caller? ≠ some who := by
    intro caller
    exact keeps (orderly.asks_own (move_of_step taken) caller asked asks)
  have calls := (orderly.stays taken different).1
  refine ⟨⟨call, calls.trans asked, asks⟩, ?_⟩
  intro printer number exchange later found known
  rw [calls] at found
  obtain ⟨_, -, entry, there, held, -⟩ := (orderly.calls who _ found).grip number rfl
  obtain ⟨same, again, agrees, -⟩ := orderly.kept taken different found rfl there held
  obtain rfl := Option.some.inj (known.symm.trans again)
  rw [agrees.marker]
  exact replied printer number exchange entry found there

theorem Orderly.carries_answer (orderly : before.Orderly) (awaits : before.Awaits who telling)
    (taken : before.step? (.answered who (.ok (.ppd telling.reply))) = some after)
    (found : after.call? who = some ⟨.refresh printer, phase⟩) (bears : phase.bears = true) :
    telling.publication.printer = printer ∧ after.Carries who telling.publication phase := by
  have moved := move_of_step taken
  generalize answer : telling.reply = reply at moved
  cases moved with
  | @answer _ number request exchange next _ between given pool asked received answered =>
      have kept := (received_inv received).1
      rw [kept] at found
      obtain ⟨rfl, rfl⟩ := Call.mk.inj
        (Option.some.inj ((call?_setPhase_self asked).symm.trans found))
      obtain ⟨_, -, entry, known, -⟩ := (orderly.calls who _ asked).grip number rfl
      obtain ⟨named, full, replied⟩ := awaits.replied printer number exchange entry asked known
      refine ⟨named, ?_⟩
      have heard := Exchange.reply?_of_answered answered
      rw [answer] at replied
      subst replied
      unfold Publication.reply at received
      split at received
      · rename_i same
        obtain ⟨rfl, rfl⟩ := Prod.mk.inj received
        simp only [Bool.and_eq_true, decide_eq_true_eq] at same
        refine .unchanged heard known same.2 ?_
        exact Option.isSome_iff_ne_none.mp same.1.2
      · obtain ⟨rfl, rfl⟩ := Prod.mk.inj received
        exact .received heard (brings_download orderly.counted)
  | hear asked received =>
      rw [(receivedAny_inv received).1] at found
      obtain ⟨rfl, rfl⟩ := Call.mk.inj
        (Option.some.inj ((call?_setPhase_self asked).symm.trans found))
      contradiction
  | advance _ advanced | ask _ advanced => cases advanced
  | finish _ ends => cases ends

end PrintConnector.Service
