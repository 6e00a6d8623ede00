import PrintConnector.Digest.Hasher

namespace PrintConnector.Digest

/-- Blocks that are full are absorbed before what follows them. -/
theorem State.absorbAll_append (state : State) (front back : List UInt8)
    (full : front.length % 64 = 0) :
    state.absorbAll (front ++ back) = (state.absorbAll front).absorbAll back := by
  generalize size : front.length = count at full
  induction count using Nat.strongRecOn generalizing state front with
  | ind count ih =>
      cases front with
      | nil =>
          have nothing : state.absorbAll [] = state := by
            rw [absorbAll]
            rfl
          rw [nothing]
          rfl
      | cons byte rest =>
          have block : 64 ≤ (byte :: rest).length := by
            rw [List.length_cons] at size ⊢
            omega
          have left : ((byte :: rest).drop 64).length = count - 64 := by
            rw [List.length_drop, size]
          have later := ih (count - 64) (by omega) (state.absorb ((byte :: rest).take 64))
            ((byte :: rest).drop 64) left (by omega)
          have first : state.absorbAll ((byte :: rest) ++ back) =
              (state.absorb ((byte :: rest).take 64)).absorbAll ((byte :: rest).drop 64 ++ back) := by
            rw [absorbAll, List.take_append_of_le_length block, List.drop_append_of_le_length block]
            simp
          have alone : state.absorbAll (byte :: rest) =
              (state.absorb ((byte :: rest).take 64)).absorbAll ((byte :: rest).drop 64) := by
            rw [absorbAll]
            simp
          rw [first, later, alone]

namespace Hasher

theorem update_update (hasher : Hasher) (first second : List UInt8) :
    (hasher.update first).update second = hasher.update (first ++ second) := by
  obtain ⟨whole, same⟩ : ∃ whole, whole = (hasher.pending ++ first).length / 64 * 64 := ⟨_, rfl⟩
  obtain ⟨front, blocks⟩ : ∃ front, front = (hasher.pending ++ first).take whole := ⟨_, rfl⟩
  obtain ⟨rest, kept⟩ : ∃ rest, rest = (hasher.pending ++ first).drop whole := ⟨_, rfl⟩
  have size : front.length = whole := by
    rw [blocks, List.length_take]
    omega
  have full : front.length % 64 = 0 := by omega
  have split : hasher.pending ++ (first ++ second) = front ++ (rest ++ second) := by
    rw [blocks, kept, ← List.append_assoc, ← List.append_assoc, List.take_append_drop]
  have sum : (front ++ (rest ++ second)).length / 64 * 64 =
      front.length + (rest ++ second).length / 64 * 64 := by
    rw [List.length_append]
    omega
  simp only [update, ← same, ← blocks, ← kept]
  rw [split, sum, List.take_length_add_append, List.drop_length_add_append,
    State.absorbAll_append _ _ _ full, Nat.add_assoc, ← List.length_append]

theorem finish_update (message : List UInt8) :
    (update {} message).finish = sha256 message := by
  have full : (message.take (message.length / 64 * 64)).length % 64 = 0 := by
    rw [List.length_take]
    omega
  simp only [update, finish, List.nil_append, Nat.zero_add]
  rw [← State.absorbAll_append _ _ _ full, ← List.append_assoc, List.take_append_drop, sha256]

end Hasher

end PrintConnector.Digest
