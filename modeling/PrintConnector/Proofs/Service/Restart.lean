import PrintConnector.Proofs.Service.Isolation
import PrintConnector.Proofs.Service.ShutDown

namespace PrintConnector.Service

variable {service before after : Service} {event : Event} {events : List Event} {who number : Nat}
  {request : Request} {phase next : Phase} {printer : String}

def Phase.isStarting : Phase → Bool
  | .starting => true
  | _ => false

/-- How often a run takes a step of a kind. -/
def count (kind : Service → Event → Service → Bool) (service : Service) : List Event → Nat
  | [] => 0
  | event :: events =>
      match service.step? event with
      | some next => (kind service event next).toNat + next.count kind events
      | none => 0

/-- A call is back at its start. -/
def startsOver (who : Nat) (before : Service) (_ : Event) (after : Service) : Bool :=
  (before.phase? who).any (fun phase => !phase.isStarting) &&
    (after.phase? who).any Phase.isStarting

/-- While a refresh is under way, another call takes the entry of its printer off
the list. -/
def robs (who : Nat) (before : Service) (event : Event) (after : Service) : Bool :=
  match before.call? who with
  | some ⟨.refresh printer, phase⟩ =>
      !phase.isFinished && decide (event.caller? ≠ some who) &&
        (before.listed? printer).any fun number => after.listed? printer ≠ some number
  | _ => false

/-- A refresh is in line for an entry that is not listed any more. -/
def isRobbed (service : Service) (who : Nat) : Bool :=
  match service.call? who with
  | some ⟨.refresh printer, .queued number⟩ => service.listed? printer ≠ some number
  | _ => false

theorem isRobbed_iff : service.isRobbed who = true ↔ ∃ printer number,
    service.call? who = some ⟨.refresh printer, .queued number⟩ ∧
      service.listed? printer ≠ some number := by
  unfold isRobbed
  split
  · rename_i found
    simp [found]
  · rename_i other
    simp only [Bool.false_eq_true, false_iff]
    rintro ⟨printer, number, found, -⟩
    exact other printer number found

theorem startsOver_iff : startsOver who before event after = true ↔
    (∃ call, before.call? who = some call ∧ call.phase.isStarting = false) ∧
      ∃ call, after.call? who = some call ∧ call.phase.isStarting = true := by
  simp [startsOver, phase?, Option.any_eq_true]

section Step

variable (orderly : before.Orderly) (taken : before.step? event = some after)

include orderly taken

/-- A call leaves the line for an entry to start over only if it is a refresh and the
entry is not listed any more. -/
theorem Orderly.leaves_line (caller : event.caller? = some who)
    (asked : before.call? who = some ⟨request, .queued number⟩)
    (found : after.call? who = some ⟨request, next⟩) :
    (∀ other, next ≠ .queued other) ∧ (next.isStarting = true →
      ∃ printer, request = .refresh printer ∧ before.listed? printer ≠ some number) := by
  have only {phase : Phase} (now : after.call? who = some ⟨request, phase⟩) :
      next = phase := (call?_inj found now).2
  rcases orderly.moves_in_line taken caller asked with ⟨entry, known, same⟩ | ⟨-, rfl⟩
  · cases request with
    | refresh printer =>
        by_cases listed : before.listed? printer = some number
        · rw [Service.locked, if_pos listed] at same
          rw [only (by rw [same]; exact call?_setPhase_self asked)]
          simp [Phase.isStarting]
        · rw [Service.locked, if_neg listed] at same
          have unlocked : (before.unlock who number).call? who = _ := asked
          rw [only (by rw [same]; exact call?_setPhase_self unlocked)]
          simp [listed]
    | invalidate printer =>
        rw [only (by rw [same]; exact call?_setPhase_self asked)]
        simp [Phase.isStarting]
    | cached _ | shutdown | ask _ =>
        rw [only (by rw [same]; exact finish_call? asked)]
        simp [Phase.isStarting]
  · rw [only (finish_call? asked)]
    simp [Phase.isStarting]

/-- A refresh gets in line for the listed entry of its printer. -/
theorem Orderly.joins_listed (caller : event.caller? = some who)
    (asked : before.call? who = some ⟨.refresh printer, .starting⟩)
    (found : after.call? who = some ⟨.refresh printer, .queued number⟩) :
    after.listed? printer = some number := by
  have only {phase : Phase} (now : after.call? who = some ⟨.refresh printer, phase⟩) :
      phase = .queued number := (call?_inj now found).2
  rcases orderly.moves_early taken caller asked (.inl rfl) with ⟨fault, rfl⟩ | rfl
  · rcases begins_listed asked taken with ⟨first, queued, listed, -⟩ | ⟨error, ended⟩
    · obtain rfl := Phase.queued.inj (only queued)
      exact listed
    · cases only ended
  · simp only [step?, abandon?, asked] at taken
    obtain rfl := Option.some.inj taken
    cases only (finish_call? asked)

theorem Orderly.not_robbed (caller : event.caller? = some who) :
    after.isRobbed who = false := by
  refine Bool.eq_false_iff.mpr fun robbed => ?_
  obtain ⟨printer, number, found, unlisted⟩ := isRobbed_iff.mp robbed
  cases old : before.call? who with
  | none =>
      obtain ⟨request, -, same⟩ := orderly.entered taken old found
      cases same
  | some call =>
      obtain ⟨request, phase⟩ := call
      obtain ⟨next, now, turned⟩ := orderly.next_phase taken old
      obtain ⟨rfl, rfl⟩ := call?_inj found now
      -- It was in line already or has just got there, for an entry that is listed now.
      cases turned with
      | stay => exact (orderly.leaves_line taken caller old now).1 number rfl
      | queue => exact unlisted (orderly.joins_listed taken caller old now)

theorem Orderly.was_robbed (caller : event.caller? = some who)
    (restarts : startsOver who before event after = true) : before.isRobbed who = true := by
  obtain ⟨⟨⟨request, phase⟩, old, going⟩, ⟨asks, next⟩, found, starting⟩ :=
    startsOver_iff.mp restarts
  obtain ⟨_, now, turned⟩ := orderly.next_phase taken old
  obtain ⟨rfl, rfl⟩ := call?_inj found now
  cases turned with
  | stay => simp [going] at starting
  | @restart number =>
      obtain ⟨printer, rfl, unlisted⟩ := (orderly.leaves_line taken caller old found).2 rfl
      exact isRobbed_iff.mpr ⟨printer, number, old, unlisted⟩
  | _ => contradiction

/-- Whoever starts over was robbed before, and whoever is robbed was so before or has
just been. -/
theorem Orderly.restart_step (who : Nat) :
    (startsOver who before event after).toNat + (after.isRobbed who).toNat ≤
      (before.isRobbed who).toNat + (robs who before event after).toNat := by
  by_cases caller : event.caller? = some who
  · rw [orderly.not_robbed taken caller]
    cases restarts : startsOver who before event after with
    | false => simp
    | true => simp [orderly.was_robbed taken caller restarts]
  · have same := (orderly.stays taken caller).1
    have still : startsOver who before event after = false := by
      refine Bool.eq_false_iff.mpr fun restarts => ?_
      obtain ⟨⟨call, old, going⟩, again, found, starting⟩ := startsOver_iff.mp restarts
      obtain rfl := Option.some.inj (found.symm.trans (same.trans old))
      simp [going] at starting
    rw [still]
    cases robbed : after.isRobbed who with
    | false => simp
    | true =>
        obtain ⟨printer, number, found, unlisted⟩ := isRobbed_iff.mp robbed
        have asked := same.symm.trans found
        by_cases listed : before.listed? printer = some number
        · simp [robs, asked, caller, listed, unlisted, Phase.isFinished]
        · simp [isRobbed_iff.mpr ⟨printer, number, asked, listed⟩]

end Step

/-- A refresh starts over no more often than it is robbed of its entry. -/
theorem Orderly.restarts_le (orderly : before.Orderly) (ran : before.run? events = some after)
    (who : Nat) : before.count (startsOver who) events ≤
      (before.isRobbed who).toNat + before.count (robs who) events := by
  induction events generalizing before with
  | nil => simp [count]
  | cons event events ih =>
      obtain ⟨between, taken, rest⟩ := run?_cons.mp ran
      have first := orderly.restart_step taken who
      have later := ih (orderly.step taken) rest
      simp only [count, taken]
      omega

end PrintConnector.Service
