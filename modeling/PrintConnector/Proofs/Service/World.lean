import Mathlib.Data.List.Induction
import PrintConnector.Proofs.Service.Career
import PrintConnector.Service.World

namespace PrintConnector.World

variable {origin before middle after world : World} {event : Event} {events front back : List Event}
  {who other : Nat} {full : Bool} {printer : String} {publication : Publication} {telling : Telling}

/-- What the server told the call is lost on it. -/
def Loses (who : Nat) : Service.Event → Prop
  | .answered other _ | .abandon other => other = who
  | _ => False

theorem Loses.unique {event : Service.Event} (loses : Loses who event)
    (others : Loses other event) : who = other := by
  cases event with
  | answered first result => exact loses.symm.trans others
  | abandon first => exact loses.symm.trans others
  | _ => exact loses.elim

inductive Turn (world : World) : Event → World → Prop where
  | publish {publication : Publication} :
      Turn world (.publish publication)
        { world with published := publication :: world.published }
  | answer {who : Nat} {full : Bool} {printer : String} {marker : Option String}
      {publication : Publication}
      (needs : world.service.need who = .answer (.ppd printer marker))
      (new : world.told.entry? who = none)
      (current : world.current? printer = some publication) :
      Turn world (.answer who full)
        { world with
          told := world.told.add who { publication, reply := publication.reply marker full } }
  | deliver {who : Nat} {telling : Telling} {service : Service}
      (known : world.told.entry? who = some telling) (underway : telling.underway = true)
      (taken : world.service.step? (.answered who (.ok (.ppd telling.reply))) = some service) :
      Turn world (.deliver who)
        { world with service, told := world.told.update who { telling with underway := false } }
  | lose {who : Nat} {event : Service.Event} {service : Service} (loses : Loses who event)
      (silent : ∀ other reply, event ≠ .answered other (.ok (.ppd reply)))
      (taken : world.service.step? event = some service) :
      Turn world (.service event) { world with service, told := world.told.remove who }
  | pass {event : Service.Event} {service : Service} (keeps : ∀ who, ¬ Loses who event)
      (taken : world.service.step? event = some service) :
      Turn world (.service event) { world with service }

theorem turn_of_answer (answered : world.answer? who full = some after) :
    Turn world (.answer who full) after := by
  unfold answer? at answered
  split at answered
  · rename_i printer marker needs
    split at answered
    · contradiction
    · rename_i new
      obtain ⟨publication, current, same⟩ := Option.bind_eq_some_iff.mp answered
      obtain rfl := Option.some.inj same
      exact .answer needs (by simpa [Roster.has] using new) current
  · contradiction

theorem turn_of_deliver (delivered : world.deliver? who = some after) :
    Turn world (.deliver who) after := by
  obtain ⟨telling, known, taken⟩ := Option.bind_eq_some_iff.mp delivered
  split at taken
  · rename_i underway
    obtain ⟨service, stepped, same⟩ := Option.bind_eq_some_iff.mp taken
    obtain rfl := Option.some.inj same
    exact .deliver known underway stepped
  · contradiction

theorem turn_of_serve {event : Service.Event} (served : world.serve? event = some after) :
    Turn world (.service event) after := by
  unfold serve? at served
  split at served
  · contradiction
  · rename_i silent
    obtain ⟨service, taken, same⟩ := Option.bind_eq_some_iff.mp served
    obtain rfl := Option.some.inj same
    refine .lose rfl ?_ taken
    rintro other reply answers
    obtain ⟨rfl, rfl⟩ := Service.Event.answered.inj answers
    exact silent _ rfl
  · obtain ⟨service, taken, same⟩ := Option.bind_eq_some_iff.mp served
    obtain rfl := Option.some.inj same
    exact .lose rfl (by simp) taken
  · rename_i notAnswered notAbandoned
    obtain ⟨service, taken, same⟩ := Option.bind_eq_some_iff.mp served
    obtain rfl := Option.some.inj same
    refine .pass ?_ taken
    intro who loses
    cases event with
    | answered other result => exact notAnswered other result rfl
    | abandon other => exact notAbandoned other rfl
    | _ => exact loses

theorem turn_of_step (taken : world.step? event = some after) : Turn world event after := by
  cases event with
  | publish publication =>
      obtain rfl := Option.some.inj taken
      exact .publish
  | answer who full => exact turn_of_answer taken
  | deliver who => exact turn_of_deliver taken
  | service event => exact turn_of_serve taken

theorem Turn.service (turn : Turn before event after) :
    after.service = before.service ∨
      ∃ happened, before.service.step? happened = some after.service := by
  cases turn with
  | publish | answer => exact .inl rfl
  | deliver _ _ taken | lose _ _ taken | pass _ taken => exact .inr ⟨_, taken⟩

theorem Turn.orderly (turn : Turn before event after) (orderly : before.service.Orderly) :
    after.service.Orderly := by
  rcases turn.service with same | ⟨happened, taken⟩
  · rw [same]
    exact orderly
  · exact orderly.step taken

/-- What was once on the server counts as published for good. -/
theorem Turn.published (turn : Turn before event after) : before.published ⊆ after.published := by
  cases turn with
  | publish => exact List.subset_cons_self _ _
  | answer | deliver | lose | pass => exact List.Subset.refl _

theorem mem_of_current (current : world.current? printer = some publication) :
    publication ∈ world.published ∧ publication.printer = printer := by
  refine ⟨List.mem_of_find?_eq_some current, ?_⟩
  simpa using List.find?_some current

section Runs

theorem run?_cons : before.run? (event :: events) = some after ↔
    ∃ between, before.step? event = some between ∧ between.run? events = some after := by
  rw [run?, List.foldlM_cons, Option.bind_eq_bind, Option.bind_eq_some_iff]
  rfl

theorem run?_append : before.run? (front ++ back) = some after ↔
    ∃ between, before.run? front = some between ∧ between.run? back = some after := by
  rw [run?, List.foldlM_append, Option.bind_eq_bind, Option.bind_eq_some_iff]
  rfl

theorem run?_snoc : before.run? (front ++ [event]) = some after ↔
    ∃ between, before.run? front = some between ∧ between.step? event = some after := by
  rw [run?_append]
  refine exists_congr fun between => and_congr_right fun _ => ?_
  rw [run?_cons]
  simp [run?]

/-- What every turn keeps holds at the end of a run. -/
theorem induct {P : World → Prop} (orderly : before.service.Orderly)
    (ran : before.run? events = some after) (holds : P before)
    (step : ∀ event ∈ events, ∀ one two, one.service.Orderly → Turn one event two →
      P one → P two) : P after := by
  induction events generalizing before with
  | nil =>
      obtain rfl := Option.some.inj ran
      exact holds
  | cons event events ih =>
      obtain ⟨between, taken, rest⟩ := run?_cons.mp ran
      have turn := turn_of_step taken
      refine ih (turn.orderly orderly) rest (step event List.mem_cons_self _ _ orderly turn holds) ?_
      intro later member
      exact step later (List.mem_cons_of_mem _ member)

/-- The same for what every step of the service keeps. -/
theorem induct_service {P : Service → Prop} (orderly : before.service.Orderly)
    (ran : before.run? events = some after) (holds : P before.service)
    (step : ∀ event one two, one.Orderly → one.step? event = some two → P one → P two) :
    P after.service := by
  refine induct (P := fun world => P world.service) orderly ran holds ?_
  intro event _ one two orderly turn holds
  rcases turn.service with same | ⟨happened, taken⟩
  · rw [same]
    exact holds
  · exact step happened one.service two.service orderly taken holds

theorem run_orderly (orderly : before.service.Orderly) (ran : before.run? events = some after) :
    after.service.Orderly := by
  refine induct (P := fun world => world.service.Orderly) orderly ran orderly ?_
  intro event _ one two orderly turn _
  exact turn.orderly orderly

theorem run_published (orderly : before.service.Orderly) (ran : before.run? events = some after) :
    before.published ⊆ after.published := by
  refine induct (P := fun world => before.published ⊆ world.published) orderly ran
    (List.Subset.refl _) ?_
  intro event _ one two _ turn sub
  exact List.Subset.trans sub turn.published

end Runs

/-- What a call was told it was told by this event, or it had been told before. -/
theorem Turn.told (turn : Turn before event after)
    (known : after.told.entry? who = some telling) :
    (∃ full, event = .answer who full ∧
      before.current? telling.publication.printer = some telling.publication) ∨
      (∀ full, event ≠ .answer who full) ∧ ∃ earlier,
        before.told.entry? who = some earlier ∧ earlier.publication = telling.publication := by
  cases turn with
  | publish | pass => exact .inr ⟨by simp, telling, known, rfl⟩
  | @answer other full printer marker publication needs new current =>
      rw [Roster.entry_add] at known
      by_cases same : who = other
      · subst same
        obtain rfl : _ = telling := by simpa [new] using known
        refine .inl ⟨full, rfl, ?_⟩
        rw [(mem_of_current current).2]
        exact current
      · rw [if_neg same, Option.or_none] at known
        refine .inr ⟨?_, telling, known, rfl⟩
        intro again answers
        exact same (Event.answer.inj answers).1.symm
  | @deliver other earlier service found =>
      rw [Roster.entry_update] at known
      refine .inr ⟨by simp, ?_⟩
      split at known
      · rename_i same
        subst same
        rw [found] at known
        obtain rfl := Option.some.inj known
        exact ⟨earlier, found, rfl⟩
      · exact ⟨telling, known, rfl⟩
  | lose =>
      rw [Roster.entry_remove] at known
      split at known
      · contradiction
      · exact .inr ⟨by simp, telling, known, rfl⟩

/-- The server answered a call when it had what the call was told of. -/
theorem told_split (ran : origin.run? events = some world) (quiet : origin.told = [])
    (known : world.told.entry? who = some telling) :
    ∃ front full back before, events = front ++ .answer who full :: back ∧
      (∀ again, .answer who again ∉ back) ∧ origin.run? front = some before ∧
      before.current? telling.publication.printer = some telling.publication := by
  -- From the end of the run, since the last answer to the call is the one that counts.
  induction events using List.reverseRecOn generalizing world telling with
  | nil =>
      obtain rfl := Option.some.inj ran
      rw [quiet] at known
      contradiction
  | append_singleton events event ih =>
      obtain ⟨between, reached, taken⟩ := run?_snoc.mp ran
      rcases (turn_of_step taken).told known with
        ⟨full, rfl, current⟩ | ⟨other, earlier, found, same⟩
      · exact ⟨events, full, [], between, rfl, by simp, reached, current⟩
      · obtain ⟨front, full, back, before, rfl, last, first, current⟩ := ih reached found
        rw [same] at current
        refine ⟨front, full, back ++ [event], before, by simp, ?_, first, current⟩
        intro again member
        rcases List.mem_append.mp member with inside | tail
        · exact last again inside
        · exact other again (List.mem_singleton.mp tail).symm

end PrintConnector.World
