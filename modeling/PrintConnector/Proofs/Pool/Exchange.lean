import PrintConnector.Pool.Exchange

namespace PrintConnector.Exchange

variable {α : Type} {exchange next : Exchange α} {pool after : Pool} {who : Nat} {reply : α}

/-- The answer that an exchange has got. -/
def reply? (exchange : Exchange α) : Option α :=
  match exchange.position with
  | .returning (some (.ok reply)) => some reply
  | .finished (some (.ok reply)) => some reply
  | _ => none

theorem reply?_conclude {outcome : Option (Except Error α)}
    (known : (exchange.conclude outcome).reply? = some reply) : outcome = some (.ok reply) := by
  unfold conclude at known
  split at known
  · split at known
    · contradiction
    · contradiction
  · rename_i other
    cases outcome with
    | none => contradiction
    | some result =>
        cases result with
        | error error => exact absurd rfl (other error)
        | ok answer =>
            obtain rfl := Option.some.inj known
            rfl

theorem reply?_settle {outcome : Except Error α}
    (settled : exchange.settle? pool who outcome = some (after, next))
    (known : next.reply? = some reply) : outcome = .ok reply := by
  obtain ⟨judged, _, same⟩ := Option.bind_eq_some_iff.mp settled
  obtain ⟨rfl, rfl⟩ := Prod.mk.inj (Option.some.inj same)
  cases outcome with
  | error error => contradiction
  | ok answer =>
      obtain rfl := Option.some.inj known
      rfl

theorem reply?_go (gone : exchange.go? pool who = some (after, next))
    (known : next.reply? = some reply) : exchange.reply? = some reply := by
  unfold go? at gone
  split at gone
  · obtain ⟨judged, _, same⟩ := Option.bind_eq_some_iff.mp gone
    obtain ⟨rfl, rfl⟩ := Prod.mk.inj (Option.some.inj same)
    contradiction
  · rename_i position _
    obtain ⟨sought, _, same⟩ := Option.bind_eq_some_iff.mp gone
    split at same
    · obtain ⟨rfl, rfl⟩ := Prod.mk.inj (Option.some.inj same)
      exact known
    · obtain ⟨rfl, rfl⟩ := Prod.mk.inj (Option.some.inj same)
      have refused := reply?_conclude known
      simp at refused
  · obtain ⟨rfl, rfl⟩ := Prod.mk.inj (Option.some.inj gone)
    unfold reply? at known
    split at known
    · rename_i position
      split at position
      · contradiction
      · contradiction
    · rename_i position
      split at position
      · contradiction
      · contradiction
    · contradiction
  · rename_i outcome position
    obtain ⟨released, _, same⟩ := Option.bind_eq_some_iff.mp gone
    split at same
    · obtain ⟨rfl, rfl⟩ := Prod.mk.inj (Option.some.inj same)
      exact known
    · obtain ⟨rfl, rfl⟩ := Prod.mk.inj (Option.some.inj same)
      obtain rfl := reply?_conclude known
      rw [reply?, position]
  · contradiction

theorem reply?_connected {result : Except Error Unit}
    (connected : exchange.connected? pool who result = some (after, next))
    (known : next.reply? = some reply) : exchange.reply? = some reply := by
  unfold connected? at connected
  split at connected
  · obtain ⟨opened, _, same⟩ := Option.bind_eq_some_iff.mp connected
    obtain ⟨rfl, rfl⟩ := Prod.mk.inj (Option.some.inj same)
    exact known
  · split at connected
    · obtain ⟨withdrawn, _, same⟩ := Option.bind_eq_some_iff.mp connected
      obtain ⟨rfl, rfl⟩ := Prod.mk.inj (Option.some.inj same)
      have refused := reply?_conclude known
      simp at refused
    · contradiction
  · contradiction

theorem reply?_reconnected {result : Except Error Unit}
    (reconnected : exchange.reconnected? pool who result = some (after, next))
    (known : next.reply? = some reply) : exchange.reply? = some reply := by
  unfold reconnected? at reconnected
  split at reconnected
  · obtain ⟨renewed, _, same⟩ := Option.bind_eq_some_iff.mp reconnected
    obtain ⟨rfl, rfl⟩ := Prod.mk.inj (Option.some.inj same)
    contradiction
  · have failed := reply?_settle reconnected known
    contradiction
  · contradiction

theorem reply?_answered {result : Except Error α}
    (answered : exchange.answered? pool who result = some (after, next))
    (known : next.reply? = some reply) : result = .ok reply := by
  unfold answered? at answered
  split at answered
  · exact reply?_settle answered known
  · contradiction

theorem answered_position {result : Except Error α}
    (answered : exchange.answered? pool who result = some (after, next)) :
    exchange.position = .asking := by
  unfold answered? at answered
  split at answered
  · assumption
  · contradiction

theorem reply?_of_answered
    (answered : exchange.answered? pool who (.ok reply) = some (after, next)) :
    next.reply? = some reply := by
  have asking := answered_position answered
  simp only [answered?, asking] at answered
  obtain ⟨judged, -, same⟩ := Option.bind_eq_some_iff.mp answered
  obtain ⟨-, rfl⟩ := Prod.mk.inj (Option.some.inj same)
  rfl

theorem reply?_abandon (abandoned : exchange.abandon? pool who = some (after, next)) :
    next.reply? = none := by
  unfold abandon? at abandoned
  split at abandoned
  · obtain ⟨-, rfl⟩ := Prod.mk.inj (Option.some.inj abandoned)
    rfl
  · obtain ⟨withdrawn, -, same⟩ := Option.bind_eq_some_iff.mp abandoned
    obtain ⟨-, rfl⟩ := Prod.mk.inj (Option.some.inj same)
    rfl
  · obtain ⟨-, rfl⟩ := Prod.mk.inj (Option.some.inj abandoned)
    rfl
  · obtain ⟨-, rfl⟩ := Prod.mk.inj (Option.some.inj abandoned)
    rfl
  · contradiction

theorem position_of_reply (known : exchange.reply? = some reply) :
    exchange.position = .returning (some (.ok reply)) ∨
      exchange.position = .finished (some (.ok reply)) := by
  unfold reply? at known
  split at known
  · rename_i position
    obtain rfl := Option.some.inj known
    exact .inl position
  · rename_i position
    obtain rfl := Option.some.inj known
    exact .inr position
  · contradiction

end PrintConnector.Exchange
