import Mathlib.Data.List.Nodup
import PrintConnector.Roster

namespace PrintConnector

section Pairs

variable {κ ν : Type} [BEq κ] [LawfulBEq κ] {pairs : List (κ × ν)} {key : κ} {value : ν}

theorem lookup_filter (keep : κ → Bool) :
    (pairs.filter fun pair => keep pair.1).lookup key =
      if keep key then pairs.lookup key else none := by
  induction pairs with
  | nil => simp
  | cons pair rest ih =>
      obtain ⟨first, value⟩ := pair
      rw [List.filter_cons, List.lookup_cons]
      cases same : key == first with
      | true =>
          obtain rfl := eq_of_beq same
          cases kept : keep key <;> simp [kept, ih]
      | false => cases keep first <;> simp [ih, same, List.lookup_cons]

/-- Where no key occurs twice, a key stands for whatever is paired with it. -/
theorem lookup_of_mem (nodup : (pairs.map Prod.fst).Nodup) (member : (key, value) ∈ pairs) :
    pairs.lookup key = some value := by
  obtain ⟨front, back, rfl⟩ := List.append_of_mem member
  refine List.lookup_eq_some_iff.mpr ⟨front, back, rfl, ?_⟩
  intro pair before
  simp only [List.map_append, List.map_cons, List.nodup_append] at nodup
  have different := nodup.2.2 pair.1 (List.mem_map_of_mem before) key (by simp)
  simpa using Ne.symm different

theorem mem_of_lookup (found : pairs.lookup key = some value) : (key, value) ∈ pairs := by
  obtain ⟨front, back, rfl, _⟩ := List.lookup_eq_some_iff.mp found
  simp

end Pairs

namespace Roster

variable {α : Type} {roster : Roster α} {number other : Nat} {value new : α}

/-- No number stands for two things. -/
def Distinct (roster : Roster α) : Prop :=
  (roster.map (·.1)).Nodup

/-- How many entries are of a kind. -/
def tally (roster : Roster α) (kind : α → Bool) : Nat :=
  roster.countP fun entry => kind entry.2

@[simp] theorem entry_nil : entry? ([] : Roster α) number = none :=
  rfl

@[simp] theorem entry_cons {key : Nat} {rest : Roster α} :
    entry? ((key, value) :: rest) number = if number = key then some value else rest.entry? number := by
  rw [ entry?, List.lookup_cons]
  by_cases same : number = key
  · simp [same]
  · rw [beq_eq_false_iff_ne.mpr same, if_neg same]
    rfl

theorem mem_of_entry (found : roster.entry? number = some value) : (number, value) ∈ roster :=
  mem_of_lookup found

theorem Distinct.entry_of_mem (distinct : roster.Distinct) (member : (number, value) ∈ roster) :
    roster.entry? number = some value :=
  lookup_of_mem distinct member

theorem not_mem_of_entry_none (missing : roster.entry? number = none) :
    number ∉ roster.map (·.1) := by
  intro member
  obtain ⟨entry, inside, rfl⟩ := List.mem_map.mp member
  have absent := List.lookup_eq_none_iff.mp missing entry inside
  simp at absent

theorem eq_nil_of_entry_none (missing : ∀ number, roster.entry? number = none) : roster = [] := by
  refine List.eq_nil_iff_forall_not_mem.mpr fun entry member => ?_
  exact not_mem_of_entry_none (missing entry.1) (List.mem_map_of_mem member)

theorem entry_filter {keep : Nat → Bool} :
    entry? (roster.filter fun entry => keep entry.1) number =
      if keep number then roster.entry? number else none :=
  lookup_filter keep

theorem entry_remove :
    entry? (roster.remove number) other = if other = number then none else roster.entry? other := by
  refine (@entry_filter _ _ _ fun key => decide (key ≠ number)).trans ?_
  by_cases same : other = number <;> simp [same]

/-- What a number stands for after a change to it. -/
theorem entry_change (change : α → α) :
    entry? (roster.map fun entry => if entry.1 = number then (number, change entry.2) else entry)
      other = if other = number then (roster.entry? number).map change else roster.entry? other := by
  induction roster with
  | nil => simp
  | cons entry rest ih =>
      obtain ⟨key, value⟩ := entry
      rw [List.map_cons]
      by_cases here : key = number
      · rw [if_pos here, entry_cons, entry_cons, entry_cons, ih]
        by_cases same : other = number <;> simp [same, here]
      · rw [if_neg here, entry_cons, entry_cons, entry_cons, ih]
        by_cases same : other = number <;> simp [same, Ne.symm here]

theorem entry_update :
    entry? (roster.update number new) other =
      if other = number then (roster.entry? number).map fun _ => new else roster.entry? other :=
  entry_change fun _ => new

theorem entry_add :
    entry? (roster.add number value) other =
      (roster.entry? other).or (if other = number then some value else none) := by
  rw [ entry?, add, List.lookup_append]
  exact congrArg _ entry_cons

theorem Distinct.remove (distinct : roster.Distinct) : (roster.remove number).Distinct :=
  distinct.sublist (List.filter_sublist.map _)

theorem Distinct.update (distinct : roster.Distinct) : (roster.update number new).Distinct := by
  have numbers : (roster.update number new).map (·.1) = roster.map (·.1) := by
    simp only [Roster.update, List.map_map]
    refine List.map_congr_left fun entry _ => ?_
    by_cases same : entry.1 = number <;> simp [same]
  rw [Distinct, numbers]
  exact distinct

theorem Distinct.add (distinct : roster.Distinct) (missing : roster.entry? number = none) :
    (roster.add number value).Distinct := by
  rw [Distinct, Roster.add, List.map_append, List.map_cons, List.map_nil]
  refine List.nodup_append.mpr ⟨distinct, List.nodup_singleton _, ?_⟩
  intro left inside right single same
  obtain rfl : right = number := List.mem_singleton.mp single
  exact not_mem_of_entry_none missing (same ▸ inside)

/-- What a number stands for can be put first. -/
theorem Distinct.perm_cons_remove (distinct : roster.Distinct)
    (found : roster.entry? number = some value) :
    roster.Perm ((number, value) :: roster.remove number) := by
  obtain ⟨front, back, rfl⟩ := List.append_of_mem (mem_of_entry found)
  have numbers : (number :: (front ++ back).map (·.1)).Nodup :=
    (List.perm_middle.map _).nodup_iff.mp distinct
  have kept : Roster.remove (front ++ back) number = front ++ back := by
    refine List.filter_eq_self.mpr fun entry member => ?_
    have different : entry.1 ≠ number := by
      rintro rfl
      exact (List.nodup_cons.mp numbers).1 (List.mem_map_of_mem member)
    simpa using different
  have removed : Roster.remove (front ++ (number, value) :: back) number = front ++ back := by
    rw [← kept]
    simp [Roster.remove]
  rw [removed]
  exact List.perm_middle

theorem remove_update : (roster.update number new).remove number = roster.remove number := by
  induction roster with
  | nil => rfl
  | cons entry rest ih =>
      rw [remove, update] at ih ⊢
      by_cases same : entry.1 = number
      · rw [remove, List.map_cons, if_pos same, List.filter_cons_of_neg (by simp),
          List.filter_cons_of_neg (by simpa using same)]
        exact ih
      · rw [remove, List.map_cons, if_neg same, List.filter_cons_of_pos (by simpa using same),
          List.filter_cons_of_pos (by simpa using same)]
        exact congrArg _ ih

theorem ne_of_entry_none (missing : roster.entry? number = none) {entry : Nat × α}
    (member : entry ∈ roster) : entry.1 ≠ number := by
  rintro rfl
  exact not_mem_of_entry_none missing (List.mem_map_of_mem member)

/-- What was added under a new number and is taken away again leaves nothing. -/
theorem remove_add (missing : roster.entry? number = none) :
    (roster.add number value).remove number = roster := by
  have kept : roster.remove number = roster :=
    List.filter_eq_self.mpr fun entry member => by simpa using ne_of_entry_none missing member
  rw [remove] at kept
  rw [remove, add, List.filter_append, kept]
  simp

theorem update_add (missing : roster.entry? number = none) :
    (roster.add number value).update number new = roster.add number new := by
  have kept : roster.update number new = roster :=
    (List.map_congr_left fun entry member => if_neg (ne_of_entry_none missing member)).trans
      (List.map_id roster)
  rw [update] at kept
  rw [update, add, List.map_append, kept]
  simp [add]

/-- An entry that is replaced counts as what it was replaced by. -/
theorem Distinct.tally_update (distinct : roster.Distinct)
    (found : roster.entry? number = some value) (kind : α → Bool) :
    (roster.update number new).tally kind + (kind value).toNat =
      roster.tally kind + (kind new).toNat := by
  have before := (distinct.perm_cons_remove found).countP_eq (fun entry => kind entry.2)
  have replaced : entry? (roster.update number new) number = some new := by
    simp [entry_update, found]
  have after := (distinct.update.perm_cons_remove replaced).countP_eq (fun entry => kind entry.2)
  rw [remove_update] at after
  simp only [tally, before, after, List.countP_cons]
  cases kind value <;> cases kind new <;> simp

theorem Distinct.tally_remove (distinct : roster.Distinct)
    (found : roster.entry? number = some value) (kind : α → Bool) :
    (roster.remove number).tally kind + (kind value).toNat = roster.tally kind := by
  have before := (distinct.perm_cons_remove found).countP_eq (fun entry => kind entry.2)
  simp only [tally, before, List.countP_cons]
  cases kind value <;> simp

theorem tally_add (kind : α → Bool) :
    (roster.add number value).tally kind = roster.tally kind + (kind value).toNat := by
  simp only [tally, add, List.countP_append, List.countP_singleton]
  cases kind value <;> simp

theorem tally_cons {rest : Roster α} (kind : α → Bool) :
    tally ((number, value) :: rest) kind = rest.tally kind + (kind value).toNat := by
  simp only [tally, List.countP_cons]
  cases kind value <;> simp

end Roster

end PrintConnector
