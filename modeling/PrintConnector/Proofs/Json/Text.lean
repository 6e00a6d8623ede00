import PrintConnector.Proofs.Json.Number

namespace PrintConnector.Json

open PrintConnector.Number (readDigits?)

variable {fuel : Nat} {done rest text : List Char} {json : Json}

theorem digitValue?_hexDigit (value : Nat) :
    Number.digitValue? 16 (hexDigit value) = some (value % 16) :=
  Number.digitValue?_digitChar (by decide) (Nat.mod_lt value (by decide))

theorem readEscapedUnit?_control {c : Char} (control : c.toNat < 0x20) :
    readEscapedUnit? ('0' :: '0' :: hexDigit (c.toNat / 16) :: hexDigit c.toNat :: rest) =
      some (c, rest) := by
  have zero : Number.digitValue? 16 '0' = some 0 := by decide
  have code : c.toNat / 16 % 16 * 16 + c.toNat % 16 = c.toNat := by omega
  have unit : readDigits? 16 0 ['0', '0', hexDigit (c.toNat / 16), hexDigit c.toNat] =
      some c.toNat := by
    simp [readDigits?, zero, digitValue?_hexDigit, code]
  have low : c.toNat < 0xD800 := by omega
  simp [readEscapedUnit?, readUnit?, unit, low]

theorem readStringTail?_escape (c : Char) :
    readStringTail? (fuel + 1) done (escape c ++ rest) =
      readStringTail? fuel (c :: done) rest := by
  unfold escape
  split
  · subst_vars
    rfl
  split
  · subst_vars
    rfl
  split
  · subst_vars
    rfl
  split
  · subst_vars
    rfl
  split
  · subst_vars
    rfl
  split
  · subst_vars
    rfl
  split
  · subst_vars
    rfl
  split
  · rename_i control
    simp [readStringTail?, readEscapedUnit?_control control]
  · rename_i quote solidus _ _ _ _ _ printable
    have ordinary : (c.toNat < 0x20 || c = '\\') = false := by simp [printable, solidus]
    rw [List.singleton_append, readStringTail?]
    · simp [ordinary]
    · intro same
      exact absurd same quote
    · intro _ same
      exact absurd same solidus
    · intro _ _ same
      exact absurd same solidus

theorem readStringTail?_escaped (enough : text.length ≤ fuel) :
    readStringTail? fuel done (text.flatMap escape ++ '"' :: rest) =
      some (.ofList (done.reverse ++ text), rest) := by
  induction text generalizing fuel done with
  | nil =>
      rw [List.flatMap_nil, List.nil_append, readStringTail?, List.append_nil]
  | cons c text ih =>
      obtain ⟨fuel, rfl⟩ := Nat.exists_eq_add_one.mpr (Nat.zero_lt_of_lt enough)
      rw [List.flatMap_cons, List.append_assoc, readStringTail?_escape,
        ih (Nat.le_of_succ_le_succ enough)]
      simp

theorem escape_ne_nil (c : Char) : escape c ≠ [] := by
  unfold escape
  repeat' split
  all_goals simp

theorem length_le_escaped (text : List Char) : text.length ≤ (text.flatMap escape).length := by
  induction text with
  | nil => simp
  | cons c text ih =>
      have solid := List.length_pos_of_ne_nil (escape_ne_nil c)
      rw [List.flatMap_cons, List.length_append, List.length_cons]
      omega

theorem readStringTail?_written (value : String) :
    readStringTail? (value.toList.flatMap escape ++ '"' :: rest).length []
        (value.toList.flatMap escape ++ '"' :: rest) = some (value, rest) := by
  have enough : value.toList.length ≤ (value.toList.flatMap escape ++ '"' :: rest).length := by
    have escaped := length_le_escaped value.toList
    rw [List.length_append]
    omega
  rw [readStringTail?_escaped enough]
  simp

/-- The first character of a value is no white space and closes nothing. -/
def StartsValue (text : List Char) : Prop :=
  ∃ c rest, text = c :: rest ∧ isSpace c = false ∧ c ≠ ']' ∧ c ≠ '\x7d'

theorem startsValue_of_digit {c : Char} (digit : c.isDigit = true) (rest : List Char) :
    StartsValue (c :: rest) := by
  refine ⟨c, rest, rfl, ?_, ?_, ?_⟩
  · rw [Bool.eq_false_iff]
    intro space
    simp only [isSpace, Bool.or_eq_true, decide_eq_true_eq] at space
    rcases space with ((rfl | rfl) | rfl) | rfl <;> exact absurd digit (by decide)
  · rintro rfl
    exact absurd digit (by decide)
  · rintro rfl
    exact absurd digit (by decide)

theorem head_digits (value : Nat) :
    ∃ c rest, Number.digits value = c :: rest ∧ c.isDigit = true := by
  cases written : Number.digits value with
  | nil => exact absurd written (digits_ne_nil value)
  | cons c rest => exact ⟨c, rest, rfl, isRun_digits value c (by simp [written])⟩

theorem head_decimal (decimal : Number.Decimal) :
    ∃ c rest, decimalLayout.render decimal = c :: rest ∧ c.isDigit = true := by
  obtain ⟨c, rest, written, digit⟩ := head_digits decimal.digits
  unfold Number.Layout.render
  dsimp only
  split
  · split
    · exact ⟨'0', _, rfl, rfl⟩
    · split
      · rw [written]
        exact ⟨c, _, rfl, digit⟩
      · rename_i above fraction
        obtain ⟨count, more⟩ : ∃ count, (decimal.exponent + (Number.digits decimal.digits).length
            - 1 + 1).toNat = count + 1 := Nat.exists_eq_add_one.mpr (by omega)
        rw [more, written]
        exact ⟨c, _, rfl, digit⟩
  · rw [written]
    exact ⟨c, _, rfl, digit⟩

theorem startsValue_render (json : Json) : StartsValue json.render := by
  cases json with
  | null => exact ⟨'n', _, rfl, by decide⟩
  | bool value => cases value <;> exact ⟨_, _, rfl, by decide⟩
  | number value =>
      rw [render]
      cases value with
      | whole value =>
          rw [renderNumber]
          split
          · exact ⟨'-', _, rfl, by decide⟩
          · obtain ⟨c, rest, written, digit⟩ := head_digits value.natAbs
            rw [written]
            exact startsValue_of_digit digit rest
      | decimal negative value =>
          rw [renderNumber]
          split
          · exact ⟨'-', _, rfl, by decide⟩
          · obtain ⟨c, rest, written, digit⟩ := head_decimal value
            rw [written]
            exact startsValue_of_digit digit rest
  | string value => exact ⟨'"', _, rfl, by decide⟩
  | array items => exact ⟨'[', _, rfl, by decide⟩
  | object members => exact ⟨'\x7b', _, rfl, by decide⟩

theorem skipSpaces_of_startsValue (starts : StartsValue text) :
    skipSpaces (text ++ rest) = text ++ rest := by
  obtain ⟨c, tail, rfl, solid, -⟩ := starts
  simp [skipSpaces, solid]

/-- A value all of whose decimals are without trailing zeros, as its text has
them. -/
inductive IsWritten : Json → Prop where
  | null : IsWritten .null
  | bool (value : Bool) : IsWritten (.bool value)
  | whole (value : Int) : IsWritten (.number (.whole value))
  | decimal {negative : Bool} {value : Number.Decimal} (proper : value.IsProper) :
      IsWritten (.number (.decimal negative value))
  | string (value : String) : IsWritten (.string value)
  | array {items : List Json} (written : ∀ item ∈ items, IsWritten item) :
      IsWritten (.array items)
  | object {members : List (String × Json)} (written : ∀ member ∈ members, IsWritten member.2) :
      IsWritten (.object members)

/-- The text of a value is read up to what follows it. -/
def Reads (json : Json) : Prop :=
  ∀ fuel rest, json.render.length ≤ fuel → EndsNumber rest →
    readValue? fuel (json.render ++ rest) = some (json, rest)

theorem exists_fuel (json : Json) (enough : json.render.length ≤ fuel) :
    ∃ less, fuel = less + 1 := by
  obtain ⟨c, rest, text, -⟩ := startsValue_render json
  rw [text, List.length_cons] at enough
  exact Nat.exists_eq_add_one.mpr (Nat.zero_lt_of_lt enough)

theorem readValue?_digit {c : Char} (digit : c.isDigit = true) (rest : List Char) :
    readValue? (fuel + 1) (c :: rest) =
      (readNumber? false (c :: rest)).map fun (value, rest) => (.number value, rest) := by
  have starts : skipSpaces (c :: rest) = c :: rest := by
    have text : skipSpaces (c :: rest ++ []) = c :: rest ++ [] :=
      skipSpaces_of_startsValue (startsValue_of_digit digit rest)
    simpa using text
  rw [readValue?, starts]
  split
  case h_8 => rfl
  all_goals
    rename_i same
    cases same
    exact absurd digit (by decide)

section Openings

theorem readValue?_minus (rest : List Char) : readValue? (fuel + 1) ('-' :: rest) =
    (readNumber? true rest).map fun (value, rest) => (.number value, rest) :=
  rfl

theorem readValue?_quote (rest : List Char) : readValue? (fuel + 1) ('"' :: rest) =
    (readStringTail? rest.length [] rest).map fun (value, rest) => (.string value, rest) :=
  rfl

theorem readValue?_bracket (starts : StartsValue text) :
    readValue? (fuel + 1) ('[' :: (text ++ rest)) =
      (readItems? fuel (text ++ rest)).map fun (items, rest) => (.array items, rest) := by
  have opened (text : List Char) : skipSpaces ('[' :: text) = '[' :: text := rfl
  have inside : skipSpaces (text ++ rest) = text ++ rest := skipSpaces_of_startsValue starts
  obtain ⟨c, tail, rfl, -, open_, -⟩ := starts
  rw [readValue?, opened]
  simp only [inside]
  split
  · rename_i same
    cases same
    contradiction
  · rfl

theorem readValue?_brace (rest : List Char) : readValue? (fuel + 1) ('\x7b' :: '"' :: rest) =
    (readMembers? fuel ('"' :: rest)).map fun (members, rest) => (.object members, rest) :=
  rfl

end Openings

theorem reads_whole (value : Int) : Reads (.number (.whole value)) := by
  intro fuel rest enough ends
  obtain ⟨fuel, rfl⟩ := exists_fuel _ enough
  rw [render, renderNumber]
  split
  · rename_i below
    have nonzero : value.natAbs ≠ 0 := by omega
    have same : -(value.natAbs : Int) = value := by omega
    rw [List.cons_append, readValue?_minus, readNumber?_negative nonzero ends, same]
    rfl
  · rename_i above
    have same : (value.natAbs : Int) = value := by omega
    obtain ⟨c, tail, written, digit⟩ := head_digits value.natAbs
    have read := readNumber?_whole value.natAbs ends
    rw [written, List.cons_append] at read ⊢
    rw [readValue?_digit digit, read, same]
    rfl

theorem reads_decimal {negative : Bool} {value : Number.Decimal} (proper : value.IsProper) :
    Reads (.number (.decimal negative value)) := by
  intro fuel rest enough ends
  obtain ⟨fuel, rfl⟩ := exists_fuel _ enough
  have read := readNumber?_decimal negative proper ends
  rw [render, renderNumber]
  cases negative with
  | true =>
      rw [if_pos rfl, List.cons_append, readValue?_minus, read]
      rfl
  | false =>
      obtain ⟨c, tail, written, digit⟩ := head_decimal value
      rw [if_neg Bool.false_ne_true]
      rw [written, List.cons_append] at read ⊢
      rw [readValue?_digit digit, read]
      rfl

theorem reads_string (value : String) : Reads (.string value) := by
  intro fuel rest enough ends
  obtain ⟨fuel, rfl⟩ := exists_fuel _ enough
  rw [render, renderString, List.cons_append, List.append_assoc, readValue?_quote,
    List.singleton_append, readStringTail?_written]
  rfl

theorem endsNumber_cons {c : Char} (apart : c.isDigit = false ∧ c ≠ '.' ∧ c ≠ 'e' ∧ c ≠ 'E')
    (rest : List Char) : EndsNumber (c :: rest) := by
  rintro _ ⟨⟩
  exact apart

theorem readSeparator?_comma (closing : Char) (rest : List Char) :
    readSeparator? closing (',' :: rest) = some (true, rest) :=
  rfl

theorem readItems?_render {items : List Json} (reads : ∀ item ∈ items, Reads item)
    (solid : items ≠ []) (enough : (renderItems items).length < fuel) :
    readItems? fuel (renderItems items ++ ']' :: rest) = some (items, rest) := by
  -- One unit of fuel goes with each item, which its text and the comma behind it pay for.
  induction items generalizing fuel with
  | nil => contradiction
  | cons item items ih =>
      obtain ⟨first, others⟩ := List.forall_mem_cons.mp reads
      obtain ⟨fuel, rfl⟩ := Nat.exists_eq_add_one.mpr (Nat.zero_lt_of_lt enough)
      cases items with
      | nil =>
          have read := first fuel (']' :: rest) (Nat.le_of_lt_succ enough)
            (endsNumber_cons (by decide) rest)
          rw [renderItems, readItems?, read]
          rfl
      | cons next items =>
          simp only [renderItems, List.length_append, List.length_cons] at enough
          have read := first fuel (',' :: (renderItems (next :: items) ++ ']' :: rest)) (by omega)
            (endsNumber_cons (by decide) _)
          have later : readItems? fuel (renderItems (next :: items) ++ ']' :: rest) =
              some (next :: items, rest) := ih others (by simp) (by omega)
          rw [renderItems, List.append_assoc, List.cons_append, readItems?, read]
          · simp only [readSeparator?_comma, later, Option.map_some]
          · intro none
            contradiction

theorem readMembers?_render {members : List (String × Json)}
    (reads : ∀ member ∈ members, Reads member.2) (solid : members ≠ [])
    (enough : (renderMembers members).length < fuel) :
    readMembers? fuel (renderMembers members ++ '\x7d' :: rest) = some (members, rest) := by
  induction members generalizing fuel with
  | nil => contradiction
  | cons member members ih =>
      obtain ⟨name, value⟩ := member
      have first : Reads value := reads _ List.mem_cons_self
      have others : ∀ member ∈ members, Reads member.2 := (List.forall_mem_cons.mp reads).2
      obtain ⟨fuel, rfl⟩ := Nat.exists_eq_add_one.mpr (Nat.zero_lt_of_lt enough)
      have quoted (text : List Char) : skipSpaces ('"' :: text) = '"' :: text := rfl
      have named (text : List Char) : skipSpaces (':' :: text) = ':' :: text := rfl
      cases members with
      | nil =>
          simp only [renderMembers, List.length_append, List.length_cons] at enough
          have read := first fuel ('\x7d' :: rest) (by omega) (endsNumber_cons (by decide) rest)
          have text : renderMembers [(name, value)] ++ '\x7d' :: rest =
              '"' :: (name.toList.flatMap escape ++ '"' ::
                (':' :: (value.render ++ '\x7d' :: rest))) := by
            simp [renderMembers, renderString]
          rw [text, readMembers?]
          simp only [quoted, readStringTail?_written, named, read]
          rfl
      | cons next members =>
          simp only [renderMembers, List.length_append, List.length_cons] at enough
          have read := first fuel (',' :: (renderMembers (next :: members) ++ '\x7d' :: rest))
            (by omega) (endsNumber_cons (by decide) _)
          have later : readMembers? fuel (renderMembers (next :: members) ++ '\x7d' :: rest) =
              some (next :: members, rest) := ih others (by simp) (by omega)
          have text : renderMembers ((name, value) :: next :: members) ++ '\x7d' :: rest =
              '"' :: (name.toList.flatMap escape ++ '"' ::
                (':' :: (value.render ++
                  ',' :: (renderMembers (next :: members) ++ '\x7d' :: rest)))) := by
            simp [renderMembers, renderString]
          rw [text, readMembers?]
          simp only [quoted, readStringTail?_written, named, read, readSeparator?_comma, later,
            Option.map_some]

theorem StartsValue.append (starts : StartsValue text) (rest : List Char) :
    StartsValue (text ++ rest) := by
  obtain ⟨c, tail, rfl, apart⟩ := starts
  exact ⟨c, tail ++ rest, rfl, apart⟩

theorem startsValue_items (item : Json) (items : List Json) :
    StartsValue (renderItems (item :: items)) := by
  cases items with
  | nil =>
      rw [renderItems]
      exact startsValue_render item
  | cons next items =>
      rw [renderItems]
      · exact (startsValue_render item).append _
      · intro none
        contradiction

theorem reads_array {items : List Json} (reads : ∀ item ∈ items, Reads item) :
    Reads (.array items) := by
  intro fuel rest enough ends
  obtain ⟨fuel, rfl⟩ := exists_fuel _ enough
  cases items with
  | nil => rfl
  | cons item items =>
      rw [render, List.length_cons, List.length_append, List.length_singleton] at enough
      have read : readItems? fuel (renderItems (item :: items) ++ ']' :: rest) =
          some (item :: items, rest) := readItems?_render reads (by simp) (by omega)
      rw [render, List.cons_append, List.append_assoc, List.singleton_append,
        readValue?_bracket (startsValue_items item items), read]
      rfl

theorem reads_object {members : List (String × Json)} (reads : ∀ member ∈ members, Reads member.2) :
    Reads (.object members) := by
  intro fuel rest enough ends
  obtain ⟨fuel, rfl⟩ := exists_fuel _ enough
  cases members with
  | nil => rfl
  | cons member members =>
      rw [render, List.length_cons, List.length_append, List.length_singleton] at enough
      have read : readMembers? fuel (renderMembers (member :: members) ++ '\x7d' :: rest) =
          some (member :: members, rest) := readMembers?_render reads (by simp) (by omega)
      obtain ⟨name, value⟩ := member
      obtain ⟨tail, quoted⟩ :
          ∃ tail, renderMembers ((name, value) :: members) = '"' :: tail := by
        cases members with
        | nil => exact ⟨_, rfl⟩
        | cons next members => exact ⟨_, rfl⟩
      rw [render, List.cons_append, List.append_assoc, List.singleton_append]
      rw [quoted, List.cons_append] at read ⊢
      rw [readValue?_brace, read]
      rfl

/-- Every value that is written is read, whatever stands behind it. -/
theorem reads_of_isWritten (written : IsWritten json) : Reads json := by
  induction written with
  | null =>
      intro fuel rest enough ends
      obtain ⟨fuel, rfl⟩ := exists_fuel _ enough
      rfl
  | bool value =>
      intro fuel rest enough ends
      obtain ⟨fuel, rfl⟩ := exists_fuel _ enough
      cases value <;> rfl
  | whole value => exact reads_whole value
  | decimal proper => exact reads_decimal proper
  | string value => exact reads_string value
  | array written reads => exact reads_array reads
  | object written reads => exact reads_object reads

theorem parse?_compact (written : IsWritten json) :
    parse? (compact json).toList = some json := by
  have ends : EndsNumber [] := by simp [EndsNumber]
  have read := reads_of_isWritten written (json.render.length + 1) [] (Nat.le_succ _) ends
  rw [List.append_nil] at read
  rw [parse?, compact, String.toList_ofList, read]
  rfl

end PrintConnector.Json
