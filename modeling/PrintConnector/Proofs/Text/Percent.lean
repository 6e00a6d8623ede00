import PrintConnector.Proofs.Number.Numeral
import PrintConnector.Proofs.Text.Utf8
import PrintConnector.Text.Percent

namespace PrintConnector.Text.Percent

variable {byte : UInt8} {text : String}

/-- The digit of a value below sixteen. -/
theorem digitValue?_upperHexDigit (value : Nat) :
    Number.digitValue? 16 (upperHexDigit value) = some (value % 16) := by
  have digit : value % 16 < 16 := Nat.mod_lt _ (by decide)
  rw [upperHexDigit]
  interval_cases value % 16 <;> rfl

theorem code_of_unreserved (unreserved : isUnreserved byte = true) :
    0x2D ≤ byte.toNat ∧ byte.toNat < 0x7F ∧ byte.toNat ≠ 0x2F := by
  simp only [isUnreserved, Bool.or_eq_true, Bool.and_eq_true, decide_eq_true_iff,
    UInt8.le_iff_toNat_le, ← UInt8.toNat_inj, UInt8.reduceToNat] at unreserved
  omega

theorem code_of_mem_encodeByte {c : Char} (member : c ∈ encodeByte byte) :
    0x20 < c.toNat ∧ c.toNat < 0x7F ∧ c.toNat ≠ 0x2F := by
  have hexadecimal (value : Nat) : 0x20 < (upperHexDigit value).toNat ∧
      (upperHexDigit value).toNat < 0x7F ∧ (upperHexDigit value).toNat ≠ 0x2F := by
    have digit : value % 16 < 16 := Nat.mod_lt _ (by decide)
    rw [upperHexDigit]
    interval_cases value % 16 <;> decide
  unfold encodeByte at member
  split at member
  · rename_i unreserved
    have code := code_of_unreserved unreserved
    rw [List.mem_singleton.mp member, Utf8.toNat_char (.inl (by omega))]
    omega
  · simp only [List.mem_cons, List.not_mem_nil, or_false] at member
    obtain rfl | rfl | rfl := member
    · decide
    · exact hexadecimal _
    · exact hexadecimal _

/-- No blank, no line break and no slash stands in a segment. -/
theorem not_mem_encode {c : Char} (outside : c.toNat ≤ 0x20 ∨ c.toNat = 0x2F) (text : String) :
    c ∉ (encode text).toList := by
  rw [encode, String.toList_ofList]
  intro member
  obtain ⟨byte, -, inside⟩ := List.mem_flatMap.mp member
  have code := code_of_mem_encodeByte inside
  omega

theorem decode?_encodeByte (byte : UInt8) (rest : List Char) :
    decode? (encodeByte byte ++ rest) = (decode? rest).map (byte :: ·) := by
  unfold encodeByte
  split
  · rename_i unreserved
    have code := code_of_unreserved unreserved
    have same : (Char.ofNat byte.toNat).toNat = byte.toNat := Utf8.toNat_char (.inl (by omega))
    have plain : Char.ofNat byte.toNat ≠ '%' := by
      intro percent
      rw [percent] at same
      change 0x25 = byte.toNat at same
      omega
    rw [List.singleton_append, decode?]
    · rw [same, if_neg (by simp [plain]; omega), UInt8.ofNat_toNat]
    · intro _ _ _ percent
      exact absurd percent plain
  · have high : byte.toNat / 16 % 16 = byte.toNat / 16 := by
      have small := byte.toNat_lt
      omega
    simp only [List.cons_append, List.nil_append, decode?, digitValue?_upperHexDigit, high,
      Option.bind_eq_bind, Option.bind_some]
    rw [Nat.div_add_mod', UInt8.ofNat_toNat]

/-- The bytes of a segment are those it was written for. -/
theorem decode?_encodeBytes (bytes : List UInt8) : decode? (encodeBytes bytes) = some bytes := by
  induction bytes with
  | nil => rfl
  | cons byte bytes ih =>
      rw [encodeBytes, List.flatMap_cons, decode?_encodeByte, ← encodeBytes, ih]
      rfl

theorem decode?_encode (text : String) :
    decode? (encode text).toList = some (Utf8.encode text.toList) := by
  rw [encode, String.toList_ofList, decode?_encodeBytes]

/-- Different texts have different segments. -/
theorem encode_injective {text other : String} (same : encode text = encode other) :
    text = other := by
  have bytes := decode?_encode text
  rw [same, decode?_encode] at bytes
  have read := Utf8.decode?_encode text.toList
  rw [← Option.some.inj bytes, Utf8.decode?_encode] at read
  exact String.toList_inj.mp (Option.some.inj read).symm

end PrintConnector.Text.Percent
