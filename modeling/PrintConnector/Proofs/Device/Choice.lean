import PrintConnector.Device.Description

namespace PrintConnector.Device

variable {α : Type} [Choice α] {choices front back options : List α} {option : α}
  {key : α → String} {default : String}

/-- The first choice with a key is flagged and none before it, or no choice has
the key and none is flagged. -/
def Marks (key : α → String) (default : String) (choices : List α) : Prop :=
  (∃ front option back, choices = front ++ option :: back ∧ Choice.isDefault option = true ∧
    key option = default ∧
    ∀ other ∈ front, Choice.isDefault other = false ∧ key other ≠ default) ∨
  ∀ other ∈ choices, Choice.isDefault other = false ∧ key other ≠ default

/-- One of the choices is flagged, which is the first one with a key, or the
first of all if none has the key. -/
def Chooses (key : α → String) (default : String) (choices : List α) : Prop :=
  ∃ front option back, choices = front ++ option :: back ∧ Choice.isDefault option = true ∧
    (∀ other ∈ front ++ back, Choice.isDefault other = false) ∧
    (key option = default ∧ (∀ other ∈ front, key other ≠ default) ∨
      front = [] ∧ ∀ other ∈ choices, key other ≠ default)

theorem mapIdx_withDefault_of_ne {flag : Nat → Bool}
    (unflagged : ∀ index < choices.length, flag index = false) :
    choices.mapIdx (fun index choice => Choice.withDefault choice (flag index)) =
      choices.map (Choice.withDefault · false) := by
  refine List.ext_getElem (by simp) ?_
  intro index inside _
  rw [List.length_mapIdx] at inside
  simp [unflagged index inside]

theorem mapIdx_withDefault :
    (front ++ option :: back).mapIdx
        (fun index choice => Choice.withDefault choice (index == front.length)) =
      front.map (Choice.withDefault · false) ++ Choice.withDefault option true ::
        back.map (Choice.withDefault · false) := by
  rw [List.mapIdx_append, List.mapIdx_cons, Nat.zero_add, BEq.rfl]
  congr
  · refine mapIdx_withDefault_of_ne fun index inside => ?_
    exact beq_eq_false_iff_ne.mpr (Nat.ne_of_lt inside)
  · refine mapIdx_withDefault_of_ne fun index _ => ?_
    exact beq_eq_false_iff_ne.mpr (by omega)

theorem settle_flagged (unflagged : ∀ other ∈ front, Choice.isDefault other = false)
    (flagged : Choice.isDefault option = true) :
    settle (front ++ option :: back) =
      front.map (Choice.withDefault · false) ++ Choice.withDefault option true ::
        back.map (Choice.withDefault · false) := by
  have first : (front ++ option :: back).findIdx? Choice.isDefault = some front.length := by
    rw [List.findIdx?_append, List.findIdx?_eq_none_iff.mpr unflagged, List.findIdx?_cons, flagged]
    simp
  rw [settle, first]
  exact mapIdx_withDefault

theorem settle_unflagged
    (unflagged : ∀ other ∈ option :: back, Choice.isDefault other = false) :
    settle (option :: back) =
      Choice.withDefault option true :: back.map (Choice.withDefault · false) := by
  rw [settle, List.findIdx?_eq_none_iff.mpr unflagged]
  exact @mapIdx_withDefault α _ [] back option

theorem marks_of_pointwise
    (flags : ∀ other ∈ choices, Choice.isDefault other = decide (key other = default)) :
    Marks key default choices := by
  cases found : choices.find? fun other => key other = default with
  | none =>
      right
      intro other member
      have different := List.find?_eq_none.mp found other member
      rw [decide_eq_true_eq] at different
      exact ⟨by rw [flags other member, decide_eq_false different], different⟩
  | some option =>
      left
      obtain ⟨same, front, back, rfl, earlier⟩ := List.find?_eq_some_iff_append.mp found
      refine ⟨front, option, back, rfl, ?_, of_decide_eq_true same, ?_⟩
      · rw [flags option (by simp), same]
      · intro other member
        have different : key other ≠ default := by simpa using earlier other member
        exact ⟨by rw [flags other (by simp [member]), decide_eq_false different], different⟩

theorem isDefault_of_mem_map {other : α}
    (member : other ∈ choices.map (Choice.withDefault · false)) : Choice.isDefault other = false := by
  obtain ⟨old, _, rfl⟩ := List.mem_map.mp member
  exact Choice.isDefault_withDefault old false

theorem chooses_of_offer (offered : offer? choices = some options)
    (keys : ∀ choice flag, key (Choice.withDefault choice flag) = key choice)
    (marks : Marks key default choices) : Chooses key default options := by
  have different (others : List α) (unlike : ∀ other ∈ others, key other ≠ default) :
      ∀ other ∈ others.map (Choice.withDefault · false), key other ≠ default := by
    intro other member
    obtain ⟨old, inside, rfl⟩ := List.mem_map.mp member
    rw [keys]
    exact unlike old inside
  have unflagged (front back : List α) : ∀ other ∈ front.map (Choice.withDefault · false) ++
      back.map (Choice.withDefault · false), Choice.isDefault other = false := by
    intro other member
    rcases List.mem_append.mp member with inFront | inBack
    · exact isDefault_of_mem_map inFront
    · exact isDefault_of_mem_map inBack
  unfold offer? at offered
  split at offered
  · contradiction
  · rename_i nonempty
    obtain rfl := Option.some.inj offered
    rcases marks with ⟨front, option, back, rfl, flagged, same, earlier⟩ | none
    · rw [settle_flagged (fun other member => (earlier other member).1) flagged]
      refine ⟨_, _, _, rfl, Choice.isDefault_withDefault _ _, unflagged front back, .inl ⟨?_, ?_⟩⟩
      · rw [keys, same]
      · exact different front fun other member => (earlier other member).2
    · cases choices with
      | nil => simp at nonempty
      | cons option back =>
          rw [settle_unflagged fun other member => (none other member).1]
          refine ⟨[], _, _, rfl, Choice.isDefault_withDefault _ _, unflagged [] back, .inr ⟨rfl, ?_⟩⟩
          intro other member
          rcases List.mem_cons.mp member with rfl | later
          · rw [keys]
            exact (none option List.mem_cons_self).2
          · exact different back (fun other member => (none other (by simp [member])).2) other later

theorem Chooses.single (chooses : Chooses key default choices) :
    choices.countP Choice.isDefault = 1 := by
  obtain ⟨front, option, back, rfl, flagged, others, -⟩ := chooses
  have before : front.countP Choice.isDefault = 0 :=
    List.countP_eq_zero.mpr fun other member => by simp [others other (by simp [member])]
  have after : back.countP Choice.isDefault = 0 :=
    List.countP_eq_zero.mpr fun other member => by simp [others other (by simp [member])]
  rw [List.countP_append, List.countP_cons_of_pos flagged, before, after]

theorem isEmpty_settle (choices : List α) : (settle choices).isEmpty = choices.isEmpty := by
  rw [Bool.eq_iff_iff, List.isEmpty_iff_length_eq_zero, List.isEmpty_iff_length_eq_zero,
    length_settle]

/-- Settling changes nothing but flags. -/
theorem map_key_settle {β : Type} {key : α → β}
    (keys : ∀ choice flag, key (Choice.withDefault choice flag) = key choice) (choices : List α) :
    (settle choices).map key = choices.map key := by
  refine List.ext_getElem (by simp [settle]) ?_
  intro index _ _
  simp [settle, keys]

/-- What is offered are the choices, but for their flags. -/
theorem map_key_of_offer {β : Type} {key : α → β} (offered : offer? choices = some options)
    (keys : ∀ choice flag, key (Choice.withDefault choice flag) = key choice) :
    options.map key = choices.map key := by
  unfold offer? at offered
  split at offered
  · contradiction
  · obtain rfl := Option.some.inj offered
    exact map_key_settle keys choices

end PrintConnector.Device
