import PrintConnector.Proofs.Ppd.Statement

namespace PrintConnector.Ppd

open PrintConnector.Text

variable {text record rest letters value : List Char} {mark : Char}

namespace Statement

/-- What a record that is neither a remark nor a marker writes before its value, and
the rest. -/
def readHeading? (record : List Char) : Option (Statement × List Char) :=
  let keyword := record.takeWhile isKeywordChar
  if keyword = [] ∨ isRemark keyword = true ∨ keyword = ['E', 'n', 'd'] then none
  else (readOption? (record.dropWhile isKeywordChar)).map fun (option, rest) =>
    (⟨.ofList keyword, .ofList option, .ofList (readTranslation rest).1, ""⟩,
      (readTranslation rest).2)

theorem isRemark_takeWhile (record : List Char) :
    isRemark (record.takeWhile isKeywordChar) = isRemark record := by
  cases record with
  | nil => rfl
  | cons c rest =>
      rw [List.takeWhile_cons]
      split
      · rfl
      · rename_i other
        have plain : c ≠ '%' ∧ c ≠ '?' := by
          constructor <;> rintro rfl <;> exact other (by decide)
        simp [isRemark, plain]

theorem read?_eq (record : List Char) :
    read? record = (readHeading? record).bind fun (heading, rest) =>
      (readValue? rest).map fun value => { heading with value := .ofList value } := by
  rw [read?, readHeading?, ofRecord?, isRemark_takeWhile]
  by_cases remark : isRemark record = true
  · simp [remark]
  by_cases none : record.takeWhile isKeywordChar = []
  · simp [none]
  have marker : String.ofList (record.takeWhile isKeywordChar) = "End" ↔
      record.takeWhile isKeywordChar = ['E', 'n', 'd'] := by
    rw [← String.toList_inj, String.toList_ofList]
    rfl
  cases readOption? (record.dropWhile isKeywordChar) with
  | none => simp [none]
  | some pair =>
      cases value : readValue? (readTranslation pair.2).2 <;>
        by_cases last : record.takeWhile isKeywordChar = ['E', 'n', 'd'] <;>
        simp [remark, none, last, isEndMarker, marker, value]

/-- What is read of a record depends on its keyword and on what is after it. -/
theorem readHeading?_append (inside : ∀ c ∈ letters, isKeywordChar c = true)
    (ends : ∀ c ∈ rest.head?, isKeywordChar c = false) :
    readHeading? (letters ++ rest) =
      if letters = [] ∨ isRemark letters = true ∨ letters = ['E', 'n', 'd'] then none
      else (readOption? rest).map fun (option, rest) =>
        (⟨.ofList letters, .ofList option, .ofList (readTranslation rest).1, ""⟩,
          (readTranslation rest).2) := by
  rw [readHeading?, takeWhile_stop _ inside ends, dropWhile_stop _ inside ends]

theorem isOptionChar_eq_false_iff : isOptionChar mark = false ↔ mark = ':' ∨ mark = '/' := by
  simp [isOptionChar, Classical.or_iff_not_imp_left]

theorem readTranslation_eq_self (first : text.head? ≠ some '/') :
    readTranslation text = ([], text) := by
  unfold readTranslation
  split
  · exact absurd rfl first
  · rfl

theorem readQuoted?_eq_none (first : text.head? ≠ some '"') : readQuoted? text = none := by
  unfold readQuoted?
  split
  · exact absurd rfl first
  · rfl

/-- A bare value ends with its line. -/
theorem readBare?_append (line : '\n' ∉ value) (rest : List Char)
    (ends : ∀ c ∈ rest.head?, c = '\n') :
    readBare? (value ++ rest) = if rest.all isBlank then some (trim value) else none := by
  have inside : ∀ c ∈ value, (c != '\n') = true := fun c member =>
    bne_iff_ne.mpr fun feed => line (feed ▸ member)
  have stop : ∀ c ∈ rest.head?, (c != '\n') = false := fun c first => by
    simp [ends c first]
  rw [readBare?, takeWhile_stop _ inside stop, dropWhile_stop _ inside stop]

theorem exists_line (text : List Char) :
    ∃ line rest, text = line ++ rest ∧ '\n' ∉ line ∧ ∀ c ∈ rest.head?, c = '\n' := by
  refine ⟨text.takeWhile (· != '\n'), text.dropWhile (· != '\n'),
    List.takeWhile_append_dropWhile.symm, ?_, ?_⟩
  · intro member
    exact absurd (List.mem_takeWhile_imp member) (by decide)
  · intro c first
    simpa [Option.mem_def.mp first] using List.head?_dropWhile_not (· != '\n') text

theorem readValue?_eq_none (nonempty : text ≠ []) (first : text.head? ≠ some ':') :
    readValue? text = none := by
  unfold readValue?
  split
  · exact absurd rfl first
  · exact absurd rfl nonempty
  · rfl

theorem exists_records (text : List Char) : ∃ first others, records text = first :: others := by
  unfold records
  split
  · exact ⟨_, _, rfl⟩
  · exact ⟨_, _, rfl⟩
  · exact ⟨_, _, rfl⟩
  · exact ⟨_, _, rfl⟩
  · split <;> exact ⟨_, _, rfl⟩

theorem dropStar_eq_self (first : text.head? ≠ some '*') : dropStar text = text := by
  unfold dropStar
  split
  · exact absurd rfl first
  · rfl

theorem records_subset (here : record ∈ records text) : record ⊆ text := by
  fun_induction records text generalizing record with
  | case1 => simp_all
  | case2 | case3 | case4 | case5 => grind
  | case6 c rest _ _ _ first others split ih =>
      rw [split] at ih
      obtain rfl | here := List.mem_cons.mp here
      · exact List.cons_subset_cons c (ih (List.mem_cons_self ..))
      · exact List.subset_cons_of_subset c (ih (List.mem_cons_of_mem _ here))

theorem recordsOf_subset (here : record ∈ recordsOf text) : record ⊆ text := by
  obtain ⟨first, others, split⟩ := exists_records text
  have whole : ∀ piece ∈ first :: others, piece ⊆ text := fun _ member =>
    records_subset (split ▸ member)
  have less : dropStar first ⊆ first := by
    unfold dropStar
    split
    · exact List.subset_cons_self ..
    · exact List.Subset.refl _
  rw [recordsOf, split] at here
  obtain rfl | here := List.mem_cons.mp here
  · exact List.Subset.trans less (whole first (List.mem_cons_self ..))
  · exact whole record (List.mem_cons_of_mem _ here)

theorem infix_of_readOption? {option : List Char} (read : readOption? text = some (option, rest)) :
    option <:+: text ∧ rest <:+: text := by
  have after : text.dropWhile isBlank <:+: text := (List.dropWhile_suffix _).isInfix
  unfold readOption? at read
  simp only at read
  split at read
  · cases read
    exact ⟨List.nil_infix, after⟩
  · split at read
    · cases read
      exact ⟨List.nil_infix, List.nil_infix⟩
    · rename_i c back split
      rw [split] at after read
      split at read
      · cases read
        exact ⟨(trim_isInfix _).trans ((List.takeWhile_prefix _).isInfix.trans after),
          (List.dropWhile_suffix _).isInfix.trans after⟩
      · split at read
        · contradiction
        · cases read
          exact ⟨List.nil_infix, after⟩

theorem readTranslation_isInfix (text : List Char) :
    (readTranslation text).1 <:+: text ∧ (readTranslation text).2 <:+: text := by
  unfold readTranslation
  split
  · rename_i rest
    have after : rest <:+: '/' :: rest := (List.suffix_cons _ _).isInfix
    exact ⟨(trim_isInfix _).trans ((List.takeWhile_prefix _).isInfix.trans after),
      (List.dropWhile_suffix _).isInfix.trans after⟩
  · exact ⟨List.nil_infix, List.infix_rfl⟩

theorem infix_of_readQuoted? (read : readQuoted? text = some value) : value <:+: text := by
  unfold readQuoted? at read
  split at read
  · rename_i rest
    have after : rest <:+: '"' :: rest := (List.suffix_cons _ _).isInfix
    split at read
    · rw [Option.ite_none_right_eq_some] at read
      cases read.2
      exact (trim_isInfix _).trans ((List.takeWhile_prefix _).isInfix.trans after)
    · contradiction
  · contradiction

theorem infix_of_readBare? (read : readBare? text = some value) : value <:+: text := by
  rw [readBare?, Option.ite_none_right_eq_some] at read
  cases read.2
  exact (trim_isInfix _).trans (List.takeWhile_prefix _).isInfix

theorem infix_of_readValue? (read : readValue? text = some value) : value <:+: text := by
  unfold readValue? at read
  split at read
  · rename_i rest
    have inside : trimStart rest <:+: ':' :: rest :=
      (List.dropWhile_suffix _).isInfix.trans (List.suffix_cons _ _).isInfix
    cases quoted : readQuoted? (trimStart rest) with
    | some _ =>
        simp only [quoted] at read
        cases read
        exact (infix_of_readQuoted? quoted).trans inside
    | none =>
        simp only [quoted] at read
        exact (infix_of_readBare? read).trans inside
  · cases read
    exact List.infix_rfl
  · contradiction

theorem parts_of_read? {statement : Statement} (read : read? record = some statement) :
    statement.keyword.toList = record.takeWhile isKeywordChar ∧
      statement.keyword ≠ "" ∧ statement.keyword ≠ "End" ∧
      ∃ back, readOption? (record.dropWhile isKeywordChar) = some (statement.option.toList, back) ∧
        statement.translation.toList = (readTranslation back).1 ∧
        readValue? (readTranslation back).2 = some statement.value.toList := by
  rw [read?_eq] at read
  obtain ⟨⟨heading, rest⟩, front, read⟩ := Option.bind_eq_some_iff.mp read
  obtain ⟨value, valued, rfl⟩ := Option.map_eq_some_iff.mp read
  simp only [readHeading?, Option.ite_none_left_eq_some, Option.map_eq_some_iff, not_or] at front
  obtain ⟨⟨some, -, marker⟩, ⟨option, back⟩, taken, same⟩ := front
  cases same
  refine ⟨String.toList_ofList, by simpa using some, fun last => marker ?_, back, ?_,
    String.toList_ofList, ?_⟩
  · simpa using congrArg String.toList last
  · rwa [String.toList_ofList]
  · rwa [String.toList_ofList]

/-- The fields of a statement are pieces of its record. -/
theorem infix_of_read? {statement : Statement} (read : read? record = some statement) :
    ∀ field ∈ [statement.keyword, statement.option, statement.translation, statement.value],
      field.toList <:+: record := by
  obtain ⟨keyword, -, -, back, taken, translation, valued⟩ := parts_of_read? read
  have after : record.dropWhile isKeywordChar <:+: record := (List.dropWhile_suffix _).isInfix
  obtain ⟨optional, left⟩ := infix_of_readOption? taken
  obtain ⟨translated, following⟩ := readTranslation_isInfix back
  simp only [List.forall_mem_cons, keyword, translation]
  refine ⟨(List.takeWhile_prefix _).isInfix, optional.trans after,
    translated.trans (left.trans after), ?_, by simp⟩
  exact (infix_of_readValue? valued).trans (following.trans (left.trans after))

end Statement

end PrintConnector.Ppd
