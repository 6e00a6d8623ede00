import PrintConnector.Proofs.Service.Harmless
import PrintConnector.Proofs.Service.Lend

namespace PrintConnector.Service

open Cache (Disk Edition Entry Fault)

variable {service before after : Service} {event : Event} {who number : Nat} {printer : String}
  {phase : Phase} {entry : Entry} {error : Error} {exchange : Exchange (PpdReply Nat)}

/-- How a refresh fails behind a shut gate: there the pool refuses it, unless the
file of an entry cannot be created before. -/
inductive Rebuffs : Error → Prop where
  | closed : Rebuffs .poolClosed
  | uncreated {fault : Fault} : Rebuffs fault.error

/-- Phases of a refresh that the pool is going to refuse or has refused. -/
inductive Phase.Bars (pool : Pool) (who : Nat) : Phase → Prop where
  | starting : Bars pool who .starting
  | queued {number : Nat} : Bars pool who (.queued number)
  | fetching {number : Nat} {exchange : Exchange (PpdReply Nat)}
      (refused : exchange.Refused pool who) : Bars pool who (.fetching number exchange)
  | failed {number : Nat} : Bars pool who (.failed number .poolClosed)
  | unlisted {number : Nat} : Bars pool who (.unlisted number .poolClosed)
  | discarding : Bars pool who (.discarding (.refreshed (.error .poolClosed)))
  | discarded : Bars pool who (.discarded (.refreshed (.error .poolClosed)))
  | finished {error : Error} (rebuffs : Rebuffs error) :
      Bars pool who (.finished (.refreshed (.error error)))

def Barred (service : Service) (who : Nat) (printer : String) : Prop :=
  ∃ phase, service.call? who = some ⟨.refresh printer, phase⟩ ∧ phase.Bars service.pool who

theorem create_rebuffs {disk : Disk} {name : Cache.FileName} {fault : Option Fault}
    (failed : disk.create name fault = .error error) : Rebuffs error := by
  unfold Disk.create at failed
  cases fault with
  | some fault =>
      obtain rfl := Except.error.inj failed
      exact .uncreated
  | none =>
      simp only [Disk.orFault] at failed
      split at failed
      · obtain rfl := Except.error.inj failed
        exact .uncreated
      · split at failed
        · obtain rfl := Except.error.inj failed
          exact .uncreated
        · contradiction

theorem Phase.Bars.outcome {pool : Pool} {outcome : Option (Except Error (PpdReply Nat))}
    (bars : (Phase.fetching number exchange).Bars pool who)
    (concluded : exchange.position = .finished outcome) : outcome = some (.error .poolClosed) := by
  cases bars with
  | fetching refused =>
      rcases refused with ⟨position, -⟩ | position <;> simp [concluded] at position
      exact position

theorem fails_of_bars {pool : Pool} (bars : phase.Bars pool who)
    (fails : Fails entry number phase error) : error = .poolClosed := by
  cases fails with
  | request concluded => exact Except.error.inj (Option.some.inj (bars.outcome concluded))
  | unchanged concluded => simpa using bars.outcome concluded
  | replacement => cases bars

/-- A refusal needs only that nobody lets the refresh in meanwhile. -/
theorem Phase.Bars.transport {pool last : Pool} (bars : phase.Bars pool who)
    (same : last.hasBorrower who = pool.hasBorrower who) : phase.Bars last who := by
  cases bars with
  | fetching refused =>
      cases refused with
      | waiting position absent => exact .fetching (.waiting position (same.trans absent))
      | ended position => exact .fetching (.ended position)
  | finished rebuffs => exact .finished rebuffs
  | starting | queued | failed | unlisted | discarding | discarded => constructor

theorem ends_of_bars {request : Request} {result : Result} (bars : phase.Bars service.pool who)
    (about : request = .refresh printer) (ends : Ends service who event request phase result)
    (kept : event ≠ .abandon who) :
    ∃ error, result = .refreshed (.error error) ∧ Rebuffs error := by
  subst about
  cases ends with
  | uncreated _ failed => exact ⟨_, rfl, create_rebuffs failed⟩
  | read _ other => exact absurd rfl (other printer)
  | confirmed _ concluded | stopped concluded => simpa using bars.outcome concluded
  | failed _ fails =>
      obtain rfl := fails_of_bars bars fails
      exact ⟨_, rfl, .closed⟩
  | discarded =>
      cases bars
      exact ⟨_, rfl, .closed⟩
  | answered => cases bars
  | abandoned => exact absurd rfl kept

theorem Orderly.barred_own (orderly : before.Orderly) (lends : before.Lends)
    (moved : before.Move event after) (caller : event.caller? = some who)
    (kept : event ≠ .abandon who) (shut : before.pool.gateOpen = false)
    (asked : before.call? who = some ⟨.refresh printer, phase⟩)
    (bars : phase.Bars before.pool who) : after.Barred who printer := by
  have same {call : Call} (again : before.call? who = some call) :
      call = ⟨.refresh printer, phase⟩ := Option.some.inj (again.symm.trans asked)
  cases moved with
  | enter new =>
      obtain rfl := Option.some.inj caller
      simp [new] at asked
  | create again | queue again =>
      obtain rfl := Option.some.inj caller
      obtain ⟨about, -⟩ := Call.mk.inj (same again)
      exact ⟨_, call?_setPhase_self asked, .queued⟩
  | strike again | drain again | query again | forget again =>
      obtain rfl := Option.some.inj caller
      obtain ⟨about, -⟩ := Call.mk.inj (same again)
      contradiction
  | fetch again =>
      obtain rfl := Option.some.inj caller
      obtain ⟨-, rfl⟩ := Call.mk.inj (same again)
      refine ⟨_, call?_setPhase_self asked, .fetching (.waiting rfl ?_)⟩
      exact lends.absent again rfl
  | @restart who number _ _ _ again =>
      obtain rfl := Option.some.inj caller
      have unlocked : (before.unlock who number).call? who = some _ := asked
      exact ⟨_, call?_setPhase_self unlocked, .starting⟩
  | advance again advanced =>
      obtain rfl := Option.some.inj ((advances_caller advanced).symm.trans caller)
      obtain ⟨-, rfl⟩ := Call.mk.inj (same again)
      cases bars with
      | fetching refused =>
          refine ⟨_, call?_setPhase_self asked, .fetching ?_⟩
          cases advanced with
          | go gone => exact refused.go shut gone
          | connected connected => simp [refused.connected] at connected
          | reconnected reconnected => simp [refused.reconnected] at reconnected
          | failed answered => simp [refused.answered] at answered
          | abandoned => exact absurd rfl kept
  | answer again received answered =>
      obtain rfl := Option.some.inj caller
      obtain ⟨-, rfl⟩ := Call.mk.inj (same again)
      cases bars with
      | fetching refused =>
          have asking := Exchange.answered_position answered
          rcases refused with ⟨position, -⟩ | position <;> simp [asking] at position
  | take again concluded =>
      obtain rfl := Option.some.inj caller
      obtain ⟨-, rfl⟩ := Call.mk.inj (same again)
      simpa using bars.outcome concluded
  | fail again _ fails =>
      obtain rfl := Option.some.inj caller
      obtain ⟨-, rfl⟩ := Call.mk.inj (same again)
      obtain rfl := fails_of_bars bars fails
      exact ⟨_, call?_setPhase_self asked, .failed⟩
  | settle again | shutGate again | sealUp again | hear again =>
      obtain rfl := Option.some.inj caller
      obtain ⟨-, rfl⟩ := Call.mk.inj (same again)
      cases bars
  | unlist again =>
      obtain rfl := Option.some.inj caller
      obtain ⟨-, rfl⟩ := Call.mk.inj (same again)
      cases bars
      exact ⟨_, call?_setPhase_self (strikeEntry_call?.trans asked), .unlisted⟩
  | release again =>
      obtain rfl := Option.some.inj caller
      obtain ⟨-, rfl⟩ := Call.mk.inj (same again)
      cases bars
      exact ⟨_, call?_setPhase_self asked, .discarding⟩
  | ask again advanced =>
      obtain rfl := Option.some.inj ((advances_caller advanced).symm.trans caller)
      obtain ⟨-, rfl⟩ := Call.mk.inj (same again)
      cases bars
  | finish again ends =>
      obtain rfl := Option.some.inj (ends.caller.symm.trans caller)
      obtain ⟨about, rfl⟩ := Call.mk.inj (same again)
      obtain ⟨error, rfl, rebuffs⟩ := ends_of_bars bars about ends kept
      exact ⟨_, finish_call? asked, .finished rebuffs⟩
  | prepare working | place working | clean working =>
      obtain rfl := Option.some.inj caller
      rcases (orderly.calls _ _ asked).job _ working with ⟨doing, -⟩ | doing
      · obtain rfl := doing
        cases bars
      · obtain rfl := doing
        cases bars
  | @discard who entries _ working =>
      obtain rfl := Option.some.inj caller
      rcases (orderly.calls who _ asked).job _ working with _ | _ | ⟨⟨_, doing⟩ | doing, -⟩
      · obtain rfl := doing
        cases bars
        have told := acknowledge_call?_discarding asked
        exact ⟨_, (discardStep_call? entries).trans told, .discarded⟩
      · obtain rfl := doing
        cases bars
  | reap | elapse | age | lose | removeDirectory => contradiction

theorem Barred.step (barred : before.Barred who printer) (orderly : before.Orderly)
    (lends : before.Lends) (taken : before.step? event = some after)
    (shut : before.pool.gateOpen = false) (kept : event ≠ .abandon who) :
    after.Barred who printer := by
  obtain ⟨phase, asked, bars⟩ := barred
  by_cases caller : event.caller? = some who
  · exact orderly.barred_own lends (move_of_step taken) caller kept shut asked bars
  · have same := (orderly.turns taken).frame.others who caller
    exact ⟨phase, (orderly.stays taken caller).1.trans asked, bars.transport same⟩

theorem Barred.uncommitted (barred : service.Barred who printer) : ¬ service.Committed who := by
  obtain ⟨phase, asked, bars⟩ := barred
  rintro (⟨again, -⟩ | again | ⟨again, other⟩)
  · obtain ⟨-, rfl⟩ := Call.mk.inj (Option.some.inj (asked.symm.trans again))
    cases bars
  · obtain ⟨-, rfl⟩ := Call.mk.inj (Option.some.inj (asked.symm.trans again))
    cases bars
  · obtain ⟨-, rfl⟩ := Call.mk.inj (Option.some.inj (asked.symm.trans again))
    cases bars
    exact other _ rfl

/-- A refused refresh has an empty entry to itself. -/
structure Guards (service : Service) (who number : Nat) : Prop where
  barred : ∃ printer, service.Barred who printer
  vacant : service.Vacant who number

theorem Guards.step (guards : before.Guards who number) (orderly : before.Orderly)
    (lends : before.Lends) (taken : before.step? event = some after)
    (shut : before.pool.gateOpen = false) (kept : event ≠ .abandon who) :
    after.Guards who number := by
  obtain ⟨printer, barred⟩ := guards.barred
  have later := barred.step orderly lends taken shut kept
  have uncommitted := barred.uncommitted
  refine ⟨⟨printer, later⟩, ?_⟩
  -- Its own moves keep the entry or strike it off; those of others cannot touch it
  -- while it is locked.
  cases guards.vacant with
  | held asked handle known held empty =>
      by_cases caller : event.caller? = some who
      · obtain ⟨_, again, -⟩ := barred
        obtain ⟨rfl, -⟩ := Call.mk.inj (Option.some.inj (asked.symm.trans again))
        exact orderly.vacant_own taken caller asked uncommitted later.uncommitted handle known held
          empty
      · exact orderly.vacant_other taken caller asked handle known held empty
  | unlisted early gone =>
      obtain ⟨early, gone⟩ := orderly.stays_unlisted taken early gone
      exact .unlisted early gone

theorem Creates.guards (creates : Creates before after who number printer) :
    after.Guards who number :=
  ⟨⟨printer, _, creates.queued, .queued⟩,
    .held creates.queued rfl creates.known (decide_eq_true rfl) rfl⟩

/-- Every entry that was made behind the gate, from some number on, is guarded. -/
def Guarded (mark : Nat) (service : Service) : Prop :=
  ∀ printer number, service.listed? printer = some number → mark ≤ number →
    ∃ who, service.Guards who number

theorem Guarded.step {mark : Nat} (guarded : before.Guarded mark) (orderly : before.Orderly)
    (lends : before.Lends) (taken : before.step? event = some after)
    (shut : before.pool.gateOpen = false) (kept : ∀ who, event ≠ .abandon who) :
    after.Guarded mark := by
  intro printer number listed late
  have moved := move_of_step taken
  -- An entry that was listed before has had its guard before.
  have old (there : before.listed? printer = some number) : ∃ who, after.Guards who number := by
    obtain ⟨who, guards⟩ := guarded printer number there late
    exact ⟨who, guards.step orderly lends taken shut (kept who)⟩
  cases caller : event.caller? with
  | none =>
      cases moved.aside caller with
      | pool | lose | removeDirectory => exact old listed
  | some mover =>
      rcases (orderly.course moved caller).listed printer number listed with there | creates
      · exact old there
      · exact ⟨mover, creates.guards⟩

end PrintConnector.Service
