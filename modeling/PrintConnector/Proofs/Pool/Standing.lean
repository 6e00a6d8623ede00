import PrintConnector.Proofs.Pool.Retry

namespace PrintConnector

variable {α : Type} {maxAge who other : Nat} {limits : Pool.Limits} {pool after : Pool}
  {exchange next : Exchange α} {attempt : Attempt α} {stage : Pool.Stage}
  {outcome : Option (Except Error α)}

/-- While a borrower is in line, somebody holds a slot. -/
theorem Pool.Balanced.holder (balanced : Pool.Balanced limits 0 pool) (slots : 0 < limits.slots)
    (waits : pool.stage? who = some .waiting) (isOpen : pool.gateOpen = true) :
    ∃ other stage, pool.stage? other = some stage ∧ stage.holdsSlot = true := by
  have inLine : 0 < pool.waiting :=
    List.countP_pos_iff.mpr ⟨(who, .waiting), Roster.mem_of_entry waits, rfl⟩
  have taken : pool.free = 0 := by
    by_contra free
    have nobody := balanced.line isOpen (Nat.pos_of_ne_zero free)
    omega
  have all := balanced.slots
  have held : 0 < pool.held := by omega
  obtain ⟨⟨other, stage⟩, member, holds⟩ := List.countP_pos_iff.mp held
  exact ⟨other, stage, balanced.borrowers.entry_of_mem member, holds⟩

namespace Exchange

/-- Where an exchange stands fits its borrower in the pool, whatever its attempts
have done. -/
inductive Placed (maxAge : Nat) (exchange : Exchange α) (pool : Pool) (who : Nat) : Prop where
  | under {attempt : Attempt α}
      (stands : Stands maxAge exchange.position (pool.stage? who) attempt)
  | ended {outcome : Option (Except Error α)} (position : exchange.position = .finished outcome)
      (absent : pool.stage? who = none)

theorem placed_of_absent (absent : pool.stage? who = none) :
    ({} : Exchange α).Placed maxAge pool who := by
  have stands : Stands maxAge .borrowing (pool.stage? who) ({} : Attempt α) := by
    rw [absent]
    exact .away
  exact .under stands

theorem placed_of_progress
    (progress : Progress maxAge exchange next (after.stage? who) attempt) :
    next.Placed maxAge after who := by
  cases progress with
  | on _ stands => exact .under stands
  | @ends outcome gone _ _ _ concluded =>
      subst concluded
      -- A second attempt starts like the first, with nobody at the pool.
      rcases exchange.conclude_cases outcome with ⟨position, -⟩ | ⟨-, -, again⟩
      · exact .ended position gone
      · have stands : Stands maxAge (exchange.conclude outcome).position (after.stage? who)
            ({} : Attempt α) := by
          rw [again, gone]
          exact .away
        exact .under stands

theorem Placed.act {event : Errand.Event α} (placed : exchange.Placed limits.maxAge pool who)
    (balanced : Pool.Balanced limits 0 pool) (setup : pool.limits = limits)
    (acted : event.act? ⟨pool, exchange, []⟩ who = some (after, next)) :
    next.Placed limits.maxAge after who := by
  cases placed with
  | under stands => exact placed_of_progress (Errand.progress_act balanced setup stands acted)
  | ended position =>
      cases event <;> simp [Errand.Event.act?, go?, connected?, reconnected?, answered?, abandon?,
        position] at acted

theorem Placed.leftAlone (placed : exchange.Placed maxAge pool who)
    (alone : pool.LeavesAlone after who) : exchange.Placed maxAge after who := by
  cases placed with
  | under stands => exact .under (stands.leftAlone alone)
  | ended position absent =>
      rcases alone with same | ⟨waits, -⟩
      · exact .ended position (same.trans absent)
      · simp [absent] at waits

theorem stage_of_slot (waits : exchange.need pool who = .slot) :
    pool.stage? who = some .waiting ∧ pool.gateOpen = true := by
  unfold need at waits
  split at waits
  · rename_i found
    split at waits
    · rename_i isOpen
      exact ⟨found, isOpen⟩
    · contradiction
  all_goals contradiction

theorem Placed.goes (placed : exchange.Placed maxAge pool who)
    (free : exchange.need pool who = .nothing) : (exchange.go? pool who).isSome = true := by
  cases placed with
  | under stands => exact (act_of_need stands).1 free
  | ended position => simp [need, position] at free

/-- Whatever comes of the opening of a session, the exchange goes on with it. -/
theorem connects (waits : exchange.need pool who = .connection) (result : Except Error Unit) :
    (exchange.connected? pool who result).isSome = true := by
  unfold need at waits
  split at waits
  · split at waits <;> contradiction
  · rename_i position found
    cases result with
    | ok => simp [connected?, position, found, Pool.connected?]
    | error error => simp [connected?, position, found, Pool.withdraw?]
  all_goals contradiction

theorem position_of_need :
    (exchange.need pool who = .reconnection → exchange.position = .reconnecting) ∧
      (exchange.need pool who = .answer → exchange.position = .asking) := by
  unfold need
  split
  · split <;> simp
  all_goals simp_all

theorem Placed.inHand (placed : exchange.Placed maxAge pool who)
    (lent : exchange.position = .reconnecting ∨ exchange.position = .asking) :
    ∃ session, pool.stage? who = some (.borrowing session true) := by
  cases placed with
  | under stands =>
      generalize exchange.position = place at stands lent
      generalize pool.stage? who = stage at stands
      cases stands with
      | reconnecting | asking => exact ⟨_, rfl⟩
      | _ => simp at lent
  | ended position => simp [position] at lent

theorem Placed.reconnects (placed : exchange.Placed maxAge pool who)
    (waits : exchange.need pool who = .reconnection) (result : Except Error Unit) :
    (exchange.reconnected? pool who result).isSome = true := by
  have position := position_of_need.1 waits
  obtain ⟨session, found⟩ := placed.inHand (.inl position)
  cases result <;>
    simp [reconnected?, settle?, position, found, Pool.renew?, Pool.judge?]

theorem Placed.answers (placed : exchange.Placed maxAge pool who)
    (waits : exchange.need pool who = .answer) (result : Except Error α) :
    (exchange.answered? pool who result).isSome = true := by
  have position := position_of_need.2 waits
  obtain ⟨session, found⟩ := placed.inHand (.inr position)
  simp [answered?, settle?, position, found, Pool.judge?]

/-- What an exchange can do next, or what it waits for. -/
inductive Outlook (exchange : Exchange α) (pool : Pool) (who : Nat) : Prop where
  | goes (gone : (exchange.go? pool who).isSome = true)
  | ended {outcome : Option (Except Error α)} (position : exchange.position = .finished outcome)
  | slot (waits : exchange.need pool who = .slot)
  | connects (waits : exchange.need pool who = .connection)
      (steps : ∀ result, (exchange.connected? pool who result).isSome = true)
  | reconnects (waits : exchange.need pool who = .reconnection)
      (steps : ∀ result, (exchange.reconnected? pool who result).isSome = true)
  | answers (waits : exchange.need pool who = .answer)
      (steps : ∀ result, (exchange.answered? pool who result).isSome = true)

theorem position_of_over (ended : exchange.need pool who = .over) :
    ∃ outcome, exchange.position = .finished outcome := by
  unfold need at ended
  split at ended
  · split at ended <;> contradiction
  · contradiction
  · contradiction
  · contradiction
  · rename_i outcome position
    exact ⟨outcome, position⟩
  · contradiction

theorem Placed.outlook (placed : exchange.Placed maxAge pool who) : exchange.Outlook pool who := by
  by_cases ended : exchange.need pool who = .over
  · obtain ⟨outcome, position⟩ := position_of_over ended
    exact .ended position
  cases needs : exchange.need pool who with
  | nothing => exact .goes (placed.goes needs)
  | slot => exact .slot needs
  | connection => exact .connects needs (connects needs)
  | reconnection => exact .reconnects needs (placed.reconnects needs)
  | answer => exact .answers needs (placed.answers needs)
  | _ => exact absurd needs ended

end Exchange

end PrintConnector
