import PrintConnector.Proofs.Ppd.Constraint
import PrintConnector.Proofs.Ppd.Default
import PrintConnector.Proofs.Ppd.Outline
import PrintConnector.Proofs.Ppd.Reading

namespace PrintConnector.Ppd

open PrintConnector.Device PrintConnector.Text

variable {text record rest option : List Char} {statement : Statement} {block : Block}
  {control : Control}

/-- A name without a colon or a slash. -/
def IsUndivided (name : String) : Prop :=
  ':' ∉ name.toList ∧ '/' ∉ name.toList

instance (name : String) : Decidable (IsUndivided name) :=
  inferInstanceAs (Decidable (_ ∧ _))

namespace Statement

/-- What holds of a statement wherever it is read. -/
structure IsWellFormed (statement : Statement) : Prop where
  nonempty : statement.keyword ≠ ""
  solid : ∀ c ∈ statement.keyword.toList, isBlank c = false
  marker : statement.keyword ≠ "End"
  keyword : IsUndivided statement.keyword
  option : IsUndivided statement.option
  translation : ':' ∉ statement.translation.toList
  fields : ∀ field ∈ [statement.keyword, statement.option, statement.translation,
    statement.value], trim field.toList = field.toList ∧ Uncut field.toList

theorem prefix_of_records {first : List Char} {others : List (List Char)}
    (split : records text = first :: others) : first <+: text := by
  fun_induction records text generalizing first others with
  | case1 => simp_all
  | case2 | case3 | case4 =>
      cases split
      exact List.nil_prefix
  | case5 c rest _ _ _ none =>
      cases split
      exact ⟨rest, rfl⟩
  | case6 c rest _ _ _ first others cut ih =>
      cases split
      exact List.cons_prefix_cons.mpr ⟨rfl, ih cut⟩

theorem uncut_of_isInfix {whole part : List Char} (uncut : Uncut whole)
    (inside : part <:+: whole) : Uncut part := by
  obtain ⟨front, back, rfl⟩ := inside
  exact (List.isChain_append.mp (List.isChain_append.mp uncut).1).2.1

theorem uncut_of_mem_records (here : record ∈ records text) : Uncut record := by
  fun_induction records text generalizing record with
  | case1 =>
      rw [List.mem_singleton.mp here]
      exact .nil
  | case2 rest ih | case3 rest ih | case4 rest ih =>
      obtain rfl | here := List.mem_cons.mp here
      · exact .nil
      · exact ih here
  | case5 c rest _ _ _ none =>
      rw [List.mem_singleton.mp here]
      exact .singleton c
  | case6 c rest _ afterReturn afterFeed first others cut ih =>
      rw [cut] at ih
      obtain rfl | here := List.mem_cons.mp here
      · refine uncut_cons_iff.mpr ⟨fun broken star => ?_, ih List.mem_cons_self⟩
        -- The record goes on where the text does, and there the cut would have been.
        obtain ⟨back, whole⟩ := prefix_of_records cut
        obtain ⟨tail, starred⟩ := List.head?_eq_some_iff.mp star
        rw [starred] at whole
        obtain feed | carriage := broken
        · exact afterFeed _ feed whole.symm
        · exact afterReturn _ carriage whole.symm
      · exact ih (List.mem_cons_of_mem _ here)

theorem uncut_of_mem_recordsOf (here : record ∈ recordsOf text) : Uncut record := by
  obtain ⟨first, others, split⟩ := exists_records text
  have whole : ∀ piece ∈ first :: others, Uncut piece := fun _ member =>
    uncut_of_mem_records (split ▸ member)
  rw [recordsOf, split] at here
  obtain rfl | here := List.mem_cons.mp here
  · have inside : dropStar first <:+: first := by
      unfold dropStar
      split
      · exact (List.suffix_cons ..).isInfix
      · exact List.infix_rfl
    exact uncut_of_isInfix (whole first List.mem_cons_self) inside
  · exact whole record (List.mem_cons_of_mem _ here)

theorem option_of_readOption? (read : readOption? text = some (option, rest)) :
    (∀ c ∈ option, isOptionChar c = true) ∧ trim option = option := by
  unfold readOption? at read
  simp only at read
  split at read
  · cases read
    exact ⟨nofun, rfl⟩
  · split at read
    · cases read
      exact ⟨nofun, rfl⟩
    · split at read
      · cases read
        refine ⟨fun c member => ?_, trim_trim _⟩
        exact List.mem_takeWhile_imp ((trim_isInfix _).subset member)
      · split at read
        · contradiction
        · cases read
          exact ⟨nofun, rfl⟩

theorem translation_of_readTranslation (text : List Char) :
    ':' ∉ (readTranslation text).1 ∧
      trim (readTranslation text).1 = (readTranslation text).1 := by
  unfold readTranslation
  split
  · refine ⟨fun colon => ?_, trim_trim _⟩
    exact absurd (List.mem_takeWhile_imp ((trim_isInfix _).subset colon)) (by decide)
  · exact ⟨nofun, rfl⟩

/-- A statement is well formed if its record has no star right after a line break. -/
theorem isWellFormed_of_read? (uncut : Uncut record) (read : read? record = some statement) :
    statement.IsWellFormed := by
  obtain ⟨keyword, nonempty, marker, back, taken, translation, valued⟩ := parts_of_read? read
  obtain ⟨options, optionTrimmed⟩ := option_of_readOption? taken
  obtain ⟨translated, translationTrimmed⟩ := translation_of_readTranslation back
  have letters : ∀ c ∈ statement.keyword.toList, isBlank c = false ∧ c ≠ ':' ∧ c ≠ '/' := by
    intro c member
    rw [keyword] at member
    simpa [isKeywordChar, and_assoc] using List.mem_takeWhile_imp member
  have keywordTrimmed : trim statement.keyword.toList = statement.keyword.toList :=
    trim_eq_self_iff.mpr ⟨fun c first => (letters c (List.mem_of_mem_head? first)).1,
      fun c last => (letters c (List.mem_of_mem_getLast? last)).1⟩
  have trimmed : ∀ field ∈ [statement.keyword, statement.option, statement.translation,
      statement.value], trim field.toList = field.toList := by
    simp only [List.forall_mem_cons, translation]
    exact ⟨keywordTrimmed, optionTrimmed, translationTrimmed, trim_readValue? valued,
      List.forall_mem_nil _⟩
  exact {
    nonempty := nonempty
    solid := fun c member => (letters c member).1
    marker := marker
    keyword := ⟨fun colon => (letters _ colon).2.1 rfl, fun slash => (letters _ slash).2.2 rfl⟩
    option := ⟨fun colon => absurd (options _ colon) (by decide),
      fun slash => absurd (options _ slash) (by decide)⟩
    translation := translation ▸ translated
    fields := fun field member =>
      ⟨trimmed field member, uncut_of_isInfix uncut (infix_of_read? read field member)⟩ }

theorem isWellFormed_of_mem {text : String} (parsed : statement ∈ parseAll text) :
    statement.IsWellFormed := by
  rw [parseAll_eq] at parsed
  obtain ⟨record, here, read⟩ := List.mem_filterMap.mp parsed
  exact isWellFormed_of_read? (uncut_of_mem_recordsOf here) read

end Statement

theorem mem_parseAll_of_blocksOf {text : String} (here : block ∈ blocksOf text)
    (inside : statement ∈ block) : statement ∈ Statement.parseAll text := by
  obtain ⟨whole, opened, rfl⟩ := List.mem_map.mp here
  have filed := (Outline.Cursor.reflects_foldl (Statement.parseAll text)).controls
  change (Outline.ofStatements (Statement.parseAll text)).controls = _ at filed
  rw [filed] at opened
  obtain ⟨number, -, rfl⟩ := List.mem_map.mp opened
  exact Outline.residents_subset _ _ _ (List.mem_of_mem_filter inside)

/-- A control has the name of the option that opens its block, without its stars. -/
theorem keyword_of_ofBlock? (built : Control.ofBlock? block = some control) :
    ∃ opening ∈ block, control.keyword.toList <:+ opening.option.toList := by
  cases block with
  | nil => contradiction
  | cons opening contents =>
      refine ⟨opening, List.mem_cons_self, ?_⟩
      simp only [Control.ofBlock?] at built
      split at built
      · contradiction
      · obtain ⟨kind, -, built⟩ := Option.bind_eq_some_iff.mp built
        obtain ⟨first, -, built⟩ := Option.bind_eq_some_iff.mp built
        cases built
        rw [String.toList_ofList]
        exact List.dropWhile_suffix _

theorem IsUndivided.of_suffix {name other : String} (undivided : IsUndivided other)
    (ends : name.toList <:+ other.toList) : IsUndivided name :=
  ⟨fun colon => undivided.1 (ends.subset colon), fun slash => undivided.2 (ends.subset slash)⟩

theorem isUndivided_of_mem {text : String} (here : control ∈ Controls.ofBlocks (blocksOf text)) :
    IsUndivided control.keyword ∧ ∀ option ∈ control.options, IsUndivided option.option := by
  obtain ⟨block, inside, built, isOf⟩ := Controls.ofBlocks_areOf _ control here
  have plain : ∀ statement ∈ block, IsUndivided statement.option := fun statement member =>
    (Statement.isWellFormed_of_mem (mem_parseAll_of_blocksOf inside member)).option
  obtain ⟨opening, first, named⟩ := keyword_of_ofBlock? built
  refine ⟨(plain opening first).of_suffix named, fun option member => ?_⟩
  exact plain option (List.mem_of_mem_tail (isOf.options option member).1)

theorem combinedId_ne {keyword : String} (undivided : IsUndivided keyword)
    (control choice valued : String) : keyword ≠ combinedId control choice valued := by
  rintro rfl
  exact undivided.1 (by simp [combinedId])

/-- The id of a capability is the keyword of its control. -/
theorem vendorCapability?_id {capability : VendorCapability}
    (built : vendorCapability? control = some capability) : capability.id = control.keyword := by
  unfold vendorCapability? at built
  split at built
  · obtain ⟨_, -, rfl⟩ := Option.map_eq_some_iff.mp built
    rfl
  · cases built
    rfl

/-- Whatever the text of a description, its statements are well formed.  So no control
has a keyword or a choice with a colon or a slash, and none has the id of the password of
locked printing. -/
theorem ofText_separable (text : String) :
    (∀ statement ∈ Statement.parseAll text, statement.IsWellFormed) ∧
      ∀ control ∈ Controls.ofBlocks (blocksOf text),
        IsUndivided control.keyword ∧ (∀ option ∈ control.options, IsUndivided option.option) ∧
          ∀ capability, vendorCapability? control = some capability →
            capability.id ≠ lockedPrintId := by
  refine ⟨fun statement parsed => Statement.isWellFormed_of_mem parsed, fun control here => ?_⟩
  obtain ⟨keyword, options⟩ := isUndivided_of_mem here
  refine ⟨keyword, options, fun capability built => ?_⟩
  rw [vendorCapability?_id built]
  exact combinedId_ne keyword _ _ _

/-- A job type with the choice of locked printing, whose code has every mark in it. -/
def markedCode : String :=
  "*OpenUI *JobType/Print: PickOne\n*JobType LockedPrint/Locked /x: \" a:b/c\n *d \"\n*End\n" ++
    "*CloseUI: *JobType\n"

theorem markedCode_separable :
    (∃ statement ∈ Statement.parseAll markedCode,
      statement = ⟨"JobType", "LockedPrint", "Locked /x", "a:b/c\n *d"⟩ ∧
        statement.IsWellFormed) ∧
      ∃ control ∈ Controls.ofBlocks (blocksOf markedCode), ∃ capability,
        vendorCapability? control = some capability ∧ capability.id = "JobType" ∧
          capability.id ≠ lockedPrintId ∧ IsUndivided control.keyword := by
  obtain ⟨statements, controls⟩ := ofText_separable markedCode
  have parsed : ⟨"JobType", "LockedPrint", "Locked /x", "a:b/c\n *d"⟩ ∈
      Statement.parseAll markedCode := by
    decide +kernel
  obtain ⟨control, here, found⟩ : ∃ control ∈ Controls.ofBlocks (blocksOf markedCode),
      (vendorCapability? control).map VendorCapability.id = some "JobType" := by
    decide +kernel
  obtain ⟨capability, built, named⟩ := Option.map_eq_some_iff.mp found
  obtain ⟨keyword, -, other⟩ := controls control here
  exact ⟨⟨_, parsed, rfl, statements _ parsed⟩, control, here, capability, built, named,
    other capability built, keyword⟩

end PrintConnector.Ppd
