import Mathlib.Data.Bool.AllAny
import Mathlib.Data.List.Chain
import PrintConnector.Ppd.Statement.Printer
import PrintConnector.Proofs.Text.Blank

namespace PrintConnector.Ppd

open PrintConnector.Text

variable {statement : Statement} {lineEnd : LineEnd} {piece record rest : List Char}
  {keyword option translation value body : List Char}

/-- No line break of the text is directly followed by a star. -/
def Uncut (text : List Char) : Prop :=
  List.IsChain (fun c next => c = '\n' ∨ c = '\r' → next ≠ '*') text

instance (text : List Char) : Decidable (Uncut text) :=
  inferInstanceAs (Decidable (List.IsChain _ text))

namespace Statement

/-- A statement whose fields can be told apart on its line. -/
structure IsRegular (statement : Statement) : Prop where
  keyword : statement.keyword ≠ "" ∧
    ∀ c ∈ statement.keyword.toList, isBlank c = false ∧ c ≠ ':' ∧ c ≠ '/'
  remark : ∀ c ∈ statement.keyword.toList.head?, c ≠ '%' ∧ c ≠ '?'
  marker : statement.keyword ≠ "End"
  option : ':' ∉ statement.option.toList ∧ '/' ∉ statement.option.toList
  translation : ':' ∉ statement.translation.toList
  value : '"' ∉ statement.value.toList
  fields : ∀ field ∈ [statement.keyword, statement.option, statement.translation,
    statement.value], trim field.toList = field.toList ∧ Uncut field.toList

/-- A line that no other line can run into.  Without quotation marks a value
stays on its line. -/
def Line.IsRegular : Line → Prop
  | .statement quoted content =>
      content.IsRegular ∧ (quoted = false → '\n' ∉ content.value.toList)
  | .comment text => Uncut text
  | .query text => Uncut text
  | .endMarker => True
  | .blank white => Blanks white

/-- The statement of a record that is neither a remark nor a marker. -/
def read? (record : List Char) : Option Statement :=
  if isRemark record then none
  else (ofRecord? record).filter fun statement => !statement.isEndMarker

theorem parseAll_eq (text : String) : parseAll text = (recordsOf text.toList).filterMap read? :=
  rfl

end Statement

theorem LineEnd.blanks (lineEnd : LineEnd) : Blanks lineEnd.chars := by
  cases lineEnd <;> simp [LineEnd.chars, Blanks] <;> decide

theorem uncut_cons_iff {c : Char} :
    Uncut (c :: rest) ↔ (c = '\n' ∨ c = '\r' → '*' ∉ rest.head?) ∧ Uncut rest := by
  rw [Uncut, List.isChain_cons]
  refine and_congr_left' ⟨fun follow broken star => follow '*' star broken rfl, ?_⟩
  rintro follow next ahead broken rfl
  exact follow broken ahead

theorem uncut_of_no_star (plain : '*' ∉ piece) : Uncut piece := by
  induction piece with
  | nil => exact .nil
  | cons c rest ih =>
      rw [List.mem_cons, not_or] at plain
      exact uncut_cons_iff.mpr
        ⟨fun _ star => plain.2 (List.mem_of_mem_head? star), ih plain.2⟩

theorem star_not_mem_of_blanks (blanks : Blanks piece) : '*' ∉ piece := fun member =>
  absurd (blanks _ member) (by decide)

/-- Two texts may meet where the second does not start with a star. -/
theorem Uncut.append {front back : List Char} (first : Uncut front) (second : Uncut back)
    (meets : '*' ∉ back.head?) : Uncut (front ++ back) := by
  refine List.isChain_append.mpr ⟨first, second, ?_⟩
  rintro c - next follows - rfl
  exact meets follows

theorem Uncut.cons {c : Char} (uncut : Uncut rest) (feed : c ≠ '\n') (carriage : c ≠ '\r') :
    Uncut (c :: rest) :=
  uncut_cons_iff.mpr ⟨fun broken => absurd broken (by simp [feed, carriage]), uncut⟩

namespace Statement

/-- A character that no cut starts at stands in the record that follows it. -/
theorem records_cons {c : Char} {first : List Char} {others : List (List Char)}
    (follow : records rest = first :: others)
    (star : c = '\n' ∨ c = '\r' → '*' ∉ rest.head?)
    (feed : c = '\r' → ¬ ['\n', '*'] <+: rest) :
    records (c :: rest) = (c :: first) :: others := by
  rw [records.eq_def]
  split
  · rename_i whole
    exact nomatch whole
  · rename_i back whole
    cases whole
    exact absurd ⟨back, rfl⟩ (feed rfl)
  · rename_i whole
    cases whole
    exact absurd rfl (star (.inr rfl))
  · rename_i whole
    cases whole
    exact absurd rfl (star (.inl rfl))
  · rename_i whole
    cases whole
    rw [follow]

/-- A cut that starts with a line feed does not reach over the end of a text. -/
theorem no_cut_ahead {back : List Char} (uncut : Uncut piece) (some : piece ≠ [])
    (star : '*' ∉ back.head?) : ¬ ['\n', '*'] <+: piece ++ back := by
  rintro ⟨rest, ahead⟩
  match piece, some with
  | [c], _ =>
      obtain ⟨-, rfl⟩ : '\n' = c ∧ '*' :: rest = back := by simpa using ahead
      exact star rfl
  | c :: d :: piece, _ =>
      obtain ⟨rfl, rfl, -⟩ : '\n' = c ∧ '*' = d ∧ rest = piece ++ back := by simpa using ahead
      exact (uncut_cons_iff.mp uncut).1 (.inl rfl) rfl

theorem records_uncut (uncut : Uncut piece) : records piece = [piece] := by
  induction piece with
  | nil => rfl
  | cons c rest ih =>
      obtain ⟨follow, uncut⟩ := uncut_cons_iff.mp uncut
      refine records_cons (ih uncut) follow fun _ ahead => ?_
      have some : rest ≠ [] := by
        rintro rfl
        simp at ahead
      exact no_cut_ahead uncut some (show '*' ∉ [].head? by simp) (by simpa using ahead)

/-- A line is cut off before the star of the next one, up to blanks at its end. -/
theorem records_line (lineEnd : LineEnd) (uncut : Uncut piece) (rest : List Char) :
    ∃ record, records (piece ++ (lineEnd.chars ++ '*' :: rest)) = record :: records rest ∧
      trimEnd record = trimEnd piece := by
  have star : '*' ∉ (lineEnd.chars ++ '*' :: rest).head? := by
    cases lineEnd <;> simp [LineEnd.chars]
  induction piece with
  | nil =>
      refine ⟨[], ?_, rfl⟩
      cases lineEnd <;> rfl
  | cons c piece ih =>
      obtain ⟨follow, uncut⟩ := uncut_cons_iff.mp uncut
      obtain ⟨record, cut, same⟩ := ih uncut
      have still : trimEnd (c :: record) = trimEnd (c :: piece) := by
        rw [← List.singleton_append, trimEnd_append, same, ← trimEnd_append]
        rfl
      cases piece with
      | nil =>
          -- A carriage return right before a line feed goes with it.
          by_cases returned : c = '\r' ∧ lineEnd = .lf
          · obtain ⟨rfl, rfl⟩ := returned
            exact ⟨[], rfl, by decide⟩
          · refine ⟨c :: record, records_cons cut (fun _ => star) ?_, still⟩
            rintro rfl ahead
            cases lineEnd <;> simp_all [LineEnd.chars]
      | cons d piece =>
          refine ⟨c :: record, records_cons cut ?_ ?_, still⟩
          · intro broken
            exact follow broken
          · intro _
            exact no_cut_ahead uncut (by simp) star

theorem takeWhile_stop {p : Char → Bool} (piece : List Char) (taken : ∀ c ∈ piece, p c = true)
    (stop : ∀ c ∈ rest.head?, p c = false) : (piece ++ rest).takeWhile p = piece := by
  rw [List.takeWhile_append_of_pos taken]
  cases rest with
  | nil => simp
  | cons c rest => simp [stop c rfl]

theorem dropWhile_stop {p : Char → Bool} (piece : List Char) (taken : ∀ c ∈ piece, p c = true)
    (stop : ∀ c ∈ rest.head?, p c = false) : (piece ++ rest).dropWhile p = rest := by
  rw [List.dropWhile_append_of_pos taken]
  cases rest with
  | nil => rfl
  | cons c rest => simp [stop c rfl]

/-- A part of a line, after its mark; without the part, nothing. -/
def part (mark : Char) (text : List Char) : List Char :=
  if text.isEmpty then [] else mark :: text

theorem head?_part (mark : Char) (text rest : List Char) :
    (part mark text ++ rest).head? = some mark ∨ (part mark text ++ rest).head? = rest.head? := by
  unfold part
  split
  · exact .inr rfl
  · exact .inl rfl

theorem readOption?_written (proper : ':' ∉ option ∧ '/' ∉ option) (trimmed : trim option = option)
    (stop : rest.head? = some ':' ∨ rest.head? = some '/') :
    readOption? (part ' ' option ++ rest) = some (option, rest) := by
  have solid : ∀ c ∈ rest.head?, isBlank c = false := by
    obtain mark | mark := stop <;> rw [mark] <;> simp <;> decide
  have ends : ∀ c ∈ rest.head?, isOptionChar c = false := by
    obtain mark | mark := stop <;> rw [mark] <;> simp <;> decide
  cases option with
  | nil =>
      have none : rest.takeWhile isBlank = [] := takeWhile_stop [] (by simp) solid
      have whole : rest.dropWhile isBlank = rest := dropWhile_stop [] (by simp) solid
      simp [part, readOption?, none, whole]
  | cons c others =>
      have inside : ∀ d ∈ c :: others, isOptionChar d = true := by
        rintro d member
        have colon : d ≠ ':' := fun same => proper.1 (same ▸ member)
        have slash : d ≠ '/' := fun same => proper.2 (same ▸ member)
        simp [isOptionChar, colon, slash]
      have first : ∀ d ∈ (c :: others ++ rest).head?, isBlank d = false :=
        (trim_eq_self_iff.mp trimmed).1
      have blanks : ∀ d ∈ [' '], isBlank d = true := List.all_eq_true.mp rfl
      have taken : (' ' :: (c :: others ++ rest)).takeWhile isBlank = [' '] :=
        takeWhile_stop _ blanks first
      have left : (' ' :: (c :: others ++ rest)).dropWhile isBlank = c :: others ++ rest :=
        dropWhile_stop _ blanks first
      rw [part, List.isEmpty_cons, if_neg Bool.false_ne_true, List.cons_append, readOption?]
      simp only [taken, left, List.isEmpty_cons, Bool.false_eq_true, if_false]
      rw [List.cons_append]
      simp only [inside c (List.mem_cons_self ..), if_true]
      rw [← List.cons_append, takeWhile_stop _ inside ends, dropWhile_stop _ inside ends, trimmed]

theorem readTranslation_written (proper : ':' ∉ translation)
    (trimmed : trim translation = translation) (body : List Char) :
    readTranslation (part '/' translation ++ ':' :: body) = (translation, ':' :: body) := by
  have inside : ∀ c ∈ translation, (c != ':') = true := fun c member =>
    bne_iff_ne.mpr fun same => proper (same ▸ member)
  have stop : ∀ c ∈ (':' :: body).head?, (c != ':') = false := by simp
  unfold part
  split
  · rename_i none
    rw [List.isEmpty_iff.mp none]
    rfl
  · rw [List.cons_append, readTranslation, takeWhile_stop _ inside stop,
      dropWhile_stop _ inside stop, trimmed]

/-- A value between quotation marks is read without blanks at its ends. -/
theorem readValue?_quoted (proper : '"' ∉ value) (trimmed : trim value = value)
    (same : trimEnd body = trimEnd (' ' :: '"' :: (value ++ ['"']))) :
    readValue? (':' :: body) = some value := by
  have inside : ∀ c ∈ value, (c != '"') = true := fun c member =>
    bne_iff_ne.mpr fun mark => proper (mark ▸ member)
  obtain ⟨gap, blanks, whole⟩ := exists_blanks_after_trimEnd body
  have stop : ∀ c ∈ ('"' :: gap).head?, (c != '"') = false := by simp
  have written : trimEnd (' ' :: '"' :: (value ++ ['"'])) = ' ' :: '"' :: (value ++ ['"']) :=
    trimEnd_solid (by decide) (' ' :: '"' :: value) []
  have start : trimStart body = '"' :: (value ++ '"' :: gap) := by
    have turned : ' ' :: '"' :: (value ++ ['"']) ++ gap =
        [' '] ++ '"' :: (value ++ '"' :: gap) := by
      simp
    rw [whole, same, written, turned, trimStart_blanks (by simp [Blanks]; decide)]
    exact trimStart_eq_self_iff.mpr (by simp; decide)
  have quoted : readQuoted? (trimStart body) = some value := by
    rw [start, readQuoted?, dropWhile_stop _ inside stop]
    simp only
    rw [if_pos (List.all_eq_true.mpr blanks), takeWhile_stop _ inside stop, trimmed]
  rw [readValue?, quoted]
  rfl

theorem readBare?_surrounded (line : '\n' ∉ value) (trimmed : trim value = value)
    (blanks : Blanks rest) : readBare? (value ++ rest) = some value := by
  have inside : ∀ c ∈ value, (c != '\n') = true := fun c member =>
    bne_iff_ne.mpr fun feed => line (feed ▸ member)
  have after : ∀ c ∈ (value ++ rest).dropWhile (· != '\n'), isBlank c = true := by
    rw [List.dropWhile_append_of_pos inside]
    exact fun c member => blanks c ((List.dropWhile_suffix _).subset member)
  have short : Blanks (rest.takeWhile (· != '\n')) := fun c member =>
    blanks c ((List.takeWhile_prefix _).subset member)
  rw [readBare?, if_pos (List.all_eq_true.mpr after), List.takeWhile_append_of_pos inside]
  have none : Blanks [] := by simp [Blanks]
  exact congrArg some (trim_surrounded trimmed none short)

theorem readValue?_bare (proper : '"' ∉ value) (line : '\n' ∉ value) (trimmed : trim value = value)
    (same : trimEnd body = trimEnd (' ' :: value)) : readValue? (':' :: body) = some value := by
  obtain ⟨gap, blanks, whole⟩ := exists_blanks_after_trimEnd body
  have space : Blanks [' '] := by simp [Blanks]; decide
  rw [readValue?]
  cases value with
  | nil =>
      have none : trimStart body = [] := by
        rw [trimEnd_eq_nil_iff.mpr space, trimEnd_eq_nil_iff] at same
        exact List.dropWhile_eq_nil_iff.mpr same
      simp only [none]
      rfl
  | cons c value =>
      obtain ⟨solid, last⟩ := trim_eq_self_iff.mp trimmed
      have written : trimEnd (' ' :: c :: value) = ' ' :: c :: value :=
        trimEnd_eq_self_iff.mpr last
      have start : trimStart body = c :: value ++ gap := by
        rw [whole, same, written, ← List.singleton_append, List.append_assoc,
          trimStart_blanks space]
        exact trimStart_eq_self_iff.mpr solid
      have unquoted : readQuoted? (c :: value ++ gap) = none := by
        have plain : c ≠ '"' := fun mark => proper (mark ▸ List.mem_cons_self ..)
        simp [readQuoted?, plain]
      simp only [start, unquoted]
      exact readBare?_surrounded line trimmed blanks

/-- What stands between the star of a statement and its colon. -/
def heading (statement : Statement) : List Char :=
  statement.keyword.toList ++
    (part ' ' statement.option.toList ++ part '/' statement.translation.toList)

/-- A value as it stands on a line. -/
def valueChars (quoted : Bool) (statement : Statement) : List Char :=
  if quoted then '"' :: (statement.value.toList ++ ['"']) else statement.value.toList

theorem render_eq (quoted : Bool) (statement : Statement) :
    statement.render quoted =
      '*' :: (statement.heading ++ ':' :: ' ' :: statement.valueChars quoted) := by
  have empty (field : String) : field.isEmpty = field.toList.isEmpty := by
    rw [Bool.eq_iff_iff, String.isEmpty_iff, List.isEmpty_iff, String.toList_eq_nil_iff]
  simp [render, heading, part, valueChars, empty]

theorem ofRecord?_written (regular : statement.IsRegular)
    (value : readValue? (':' :: body) = some statement.value.toList) :
    ofRecord? (statement.heading ++ ':' :: body) = some statement := by
  obtain ⟨⟨nonempty, letters⟩, -, -, option, translation, -, fields⟩ := regular
  have inside : ∀ c ∈ statement.keyword.toList, isKeywordChar c = true := by
    intro c member
    obtain ⟨solid, colon, slash⟩ := letters c member
    simp [isKeywordChar, solid, colon, slash]
  have some : statement.keyword.toList.isEmpty = false := by
    simpa [List.isEmpty_eq_false_iff] using nonempty
  have slash := head?_part '/' statement.translation.toList (':' :: body)
  have blank := head?_part ' ' statement.option.toList
    (part '/' statement.translation.toList ++ ':' :: body)
  have ends : ∀ c ∈ (part ' ' statement.option.toList ++
      (part '/' statement.translation.toList ++ ':' :: body)).head?, isKeywordChar c = false := by
    obtain first | first := blank
    · rw [first]; simp; decide
    · rw [first]
      obtain first | first := slash <;> rw [first] <;> simp <;> decide
  rw [heading, List.append_assoc, List.append_assoc, ofRecord?, takeWhile_stop _ inside ends,
    dropWhile_stop _ inside ends]
  simp only [some, Bool.false_eq_true, if_false]
  rw [readOption?_written option (fields _ (by simp)).1 slash.symm]
  simp only [Option.bind_eq_bind, Option.bind_some,
    readTranslation_written translation (fields statement.translation (by simp)).1, value,
    String.ofList_toList]

theorem read?_written {quoted : Bool} (regular : Line.IsRegular (.statement quoted statement))
    (same : trimEnd record =
      trimEnd (statement.heading ++ ':' :: ' ' :: statement.valueChars quoted)) :
    read? record = some statement := by
  obtain ⟨body, rfl, ends⟩ := exists_of_trimEnd_eq _ same (by decide)
  obtain ⟨regular, oneLine⟩ := regular
  obtain ⟨trimmed, -⟩ := regular.fields statement.value (by simp)
  have value : readValue? (':' :: body) = some statement.value.toList := by
    cases quoted with
    | true => exact readValue?_quoted regular.value trimmed ends
    | false => exact readValue?_bare regular.value (oneLine rfl) trimmed ends
  have statement? : isRemark (statement.heading ++ ':' :: body) = false := by
    obtain ⟨c, rest, first⟩ := List.exists_cons_of_ne_nil
      (mt String.toList_eq_nil_iff.mp regular.keyword.1)
    have mark := regular.remark c (by rw [first]; rfl)
    simp [heading, first, isRemark, mark]
  have kept : (!statement.isEndMarker) = true := by simp [isEndMarker, regular.marker]
  rw [read?, statement?, ofRecord?_written regular value, if_neg Bool.false_ne_true,
    Option.filter_some, if_pos kept]

theorem uncut_written (regular : statement.IsRegular) (quoted : Bool) :
    Uncut (statement.heading ++ ':' :: ' ' :: statement.valueChars quoted) := by
  have part_uncut (mark : Char) {text : List Char} (uncut : Uncut text) (feed : mark ≠ '\n')
      (carriage : mark ≠ '\r') : Uncut (part mark text) := by
    unfold part
    split
    · exact .nil
    · exact uncut.cons feed carriage
  have value : Uncut (statement.valueChars quoted) := by
    have bare := (regular.fields statement.value (by simp)).2
    unfold valueChars
    split
    · exact (bare.append (uncut_of_no_star (by simp)) (by simp)).cons (by decide) (by decide)
    · exact bare
  have meets {mark : Char} (text rest : List Char) (plain : mark ≠ '*') (next : '*' ∉ rest.head?) :
      '*' ∉ (part mark text ++ rest).head? := by
    obtain first | first := head?_part mark text rest <;> rw [first]
    · simpa using plain
    · exact next
  have tail : Uncut (':' :: ' ' :: statement.valueChars quoted) :=
    (value.cons (by decide) (by decide)).cons (by decide) (by decide)
  have translation := (part_uncut '/' (regular.fields statement.translation (by simp)).2
    (by decide) (by decide)).append tail (by simp)
  have option := (part_uncut ' ' (regular.fields statement.option (by simp)).2
    (by decide) (by decide)).append translation (meets _ _ (by decide) (by simp))
  rw [heading, List.append_assoc, List.append_assoc]
  exact (regular.fields statement.keyword (by simp)).2.append option
    (meets _ _ (by decide) (meets _ _ (by decide) (by simp)))

theorem stop_of_blanks (blanks : Blanks rest) : ∀ c ∈ rest.head?, isKeywordChar c = false := by
  intro c first
  simp [isKeywordChar, blanks c (List.mem_of_mem_head? first)]

theorem keyword_of_ofRecord? (read : ofRecord? record = some statement) :
    record.takeWhile isKeywordChar ≠ [] ∧
      statement.keyword.toList = record.takeWhile isKeywordChar := by
  unfold ofRecord? at read
  simp only at read
  split at read
  · exact nomatch read
  · rename_i nonempty
    obtain ⟨_, -, read⟩ := Option.bind_eq_some_iff.mp read
    obtain ⟨_, -, read⟩ := Option.bind_eq_some_iff.mp read
    cases read
    exact ⟨by simpa using nonempty, String.toList_ofList⟩

theorem read?_blanks (blanks : Blanks record) : read? record = none := by
  have keyword : record.takeWhile isKeywordChar = [] :=
    takeWhile_stop [] (by simp) (stop_of_blanks blanks)
  have unread : ofRecord? record = none :=
    Option.eq_none_iff_forall_ne_some.mpr fun _ read => (keyword_of_ofRecord? read).1 keyword
  simp [read?, unread]

theorem read?_marker (blanks : Blanks rest) : read? ('E' :: 'n' :: 'd' :: rest) = none := by
  have keyword : ('E' :: 'n' :: 'd' :: rest).takeWhile isKeywordChar = ['E', 'n', 'd'] :=
    takeWhile_stop ['E', 'n', 'd'] (List.all_eq_true.mp rfl) (stop_of_blanks blanks)
  rw [read?, ite_eq_left_iff]
  intro _
  refine Option.filter_eq_none_iff.mpr fun statement read => ?_
  have marker : statement.keyword = "End" := by
    rw [← String.toList_inj, (keyword_of_ofRecord? read).2, keyword]
    rfl
  simp [isEndMarker, marker]

/-- A line without a statement is only blanks, or what follows its star is read
as the line's statement, whatever blanks follow. -/
theorem Line.IsRegular.cases {line : Line} (regular : line.IsRegular) :
    (Blanks line.chars ∧ line.content? = none) ∨
      ∃ content, line.chars = '*' :: content ∧ Uncut content ∧
        ∀ record, trimEnd record = trimEnd content → read? record = line.content? := by
  have remark {mark : Char} {text record : List Char} (solid : isBlank mark = false)
      (remarks : mark = '%' ∨ mark = '?') (same : trimEnd record = trimEnd (mark :: text)) :
      read? record = none := by
    obtain ⟨rest, rfl, -⟩ := exists_of_trimEnd_eq [] same solid
    simp [read?, isRemark, remarks]
  cases line with
  | statement quoted content =>
      exact .inr ⟨_, render_eq quoted content, uncut_written regular.1 quoted,
        fun record same => read?_written regular same⟩
  | comment text =>
      exact .inr ⟨'%' :: text, rfl, regular.cons (by decide) (by decide),
        fun record same => remark (by decide) (.inl rfl) same⟩
  | query text =>
      exact .inr ⟨'?' :: text, rfl, regular.cons (by decide) (by decide),
        fun record same => remark (by decide) (.inr rfl) same⟩
  | endMarker =>
      refine .inr ⟨['E', 'n', 'd'], rfl, uncut_of_no_star (by decide), fun record same => ?_⟩
      obtain ⟨rest, rfl, ends⟩ := exists_of_trimEnd_eq ['E', 'n'] same (by decide)
      exact read?_marker (trimEnd_eq_nil_iff.mp ends)
  | blank white => exact .inl ⟨regular, rfl⟩

/-- Lines are read one after another.  What came before them is a record of its
own, with the blanks up to the first star. -/
theorem records_lines (lineEnd : LineEnd) {lines : List Line}
    (regular : ∀ line ∈ lines, line.IsRegular) (uncut : Uncut piece) :
    ∃ record others, records (piece ++ lineEnd.chars ++
        lines.flatMap fun line => line.chars ++ lineEnd.chars) = record :: others ∧
      trimEnd record = trimEnd piece ∧ others.filterMap read? = Line.contents lines := by
  have ending : Uncut lineEnd.chars := uncut_of_no_star (star_not_mem_of_blanks lineEnd.blanks)
  have started : '*' ∉ lineEnd.chars.head? := fun first =>
    star_not_mem_of_blanks lineEnd.blanks (List.mem_of_mem_head? first)
  induction lines generalizing piece with
  | nil =>
      refine ⟨piece ++ lineEnd.chars, [], ?_, trimEnd_blanks _ lineEnd.blanks, rfl⟩
      rw [List.flatMap_nil, List.append_nil]
      exact records_uncut (uncut.append ending started)
  | cons line lines ih =>
      obtain ⟨this, regular⟩ := List.forall_mem_cons.mp regular
      obtain ⟨blanks, content⟩ | ⟨content, written, whole, read⟩ := this.cases
      · have noStar := star_not_mem_of_blanks blanks
        obtain ⟨record, others, cut, same, left⟩ := ih regular
          ((uncut.append ending started).append (uncut_of_no_star noStar)
            fun first => noStar (List.mem_of_mem_head? first))
        refine ⟨record, others, ?_, ?_, ?_⟩
        · rw [← cut]
          simp
        · rw [same, trimEnd_blanks _ blanks, trimEnd_blanks _ lineEnd.blanks]
        · rw [left, Line.contents, Line.contents, List.filterMap_cons, content]
      · obtain ⟨following, others, cut, ends, left⟩ := ih regular whole
        obtain ⟨record, first, same⟩ := records_line lineEnd uncut
          (content ++ lineEnd.chars ++ lines.flatMap fun line => line.chars ++ lineEnd.chars)
        refine ⟨record, following :: others, ?_, same, ?_⟩
        · rw [← cut, ← first, List.flatMap_cons, written]
          simp
        · rw [List.filterMap_cons, read following ends, left, Line.contents, Line.contents,
            List.filterMap_cons]

/-- Whatever the lines of a description and however they end, the statements
written there are read back, in their order. -/
theorem parseAll_renderLines (lineEnd : LineEnd) {lines : List Line}
    (regular : ∀ line ∈ lines, line.IsRegular) :
    parseAll (renderLines lineEnd lines) = Line.contents lines := by
  rw [parseAll_eq, recordsOf, renderLines, String.toList_ofList]
  cases lines with
  | nil => rfl
  | cons line lines =>
      obtain ⟨this, regular⟩ := List.forall_mem_cons.mp regular
      rw [List.flatMap_cons, Line.contents, List.filterMap_cons]
      obtain ⟨blanks, content⟩ | ⟨content, written, whole, read⟩ := this.cases
      · obtain ⟨record, others, cut, same, left⟩ := records_lines lineEnd regular
          (uncut_of_no_star (star_not_mem_of_blanks blanks))
        replace blanks : Blanks record := by
          rwa [← trimEnd_eq_nil_iff, same, trimEnd_eq_nil_iff]
        have start : dropStar record = record := by
          unfold dropStar
          split
          · exact absurd (List.mem_cons_self ..) (star_not_mem_of_blanks blanks)
          · rfl
        rw [cut, content]
        simp only
        rw [start, List.filterMap_cons, read?_blanks blanks, left, Line.contents]
      · obtain ⟨record, others, cut, same, left⟩ := records_lines lineEnd regular
          (whole.cons (c := '*') (by decide) (by decide))
        obtain ⟨rest, rfl, ends⟩ := exists_of_trimEnd_eq [] same (by decide)
        rw [written, cut]
        simp only [List.nil_append, dropStar]
        rw [List.filterMap_cons, read rest ends, left, Line.contents]

/-- Two statements with stars, slashes, quotation marks and line breaks in places
where they mean nothing, between lines of every other kind. -/
def tricky : List Line :=
  [.comment " a *comment: \"".toList, .blank [' ', '\t'],
    .statement true ⟨"PageSize", "Letter \"B\" *x", "US/Letter", "/Size: [612]\n /B */"⟩,
    .endMarker, .query "PageSize: \"query\"".toList, .blank [],
    .statement false ⟨"*OpenUI", "", "", "*JobType: a/b\rc"⟩]

theorem tricky_read : (∀ line ∈ tricky, line.IsRegular) ∧
    parseAll (renderLines .cr tricky) =
      [⟨"PageSize", "Letter \"B\" *x", "US/Letter", "/Size: [612]\n /B */"⟩,
        ⟨"*OpenUI", "", "", "*JobType: a/b\rc"⟩] := by
  have sized : IsRegular ⟨"PageSize", "Letter \"B\" *x", "US/Letter", "/Size: [612]\n /B */"⟩ :=
    ⟨⟨by decide, List.all_iff_forall_prop.mp (by decide +kernel)⟩, by simp, by decide,
      by decide +kernel, by decide +kernel, by decide +kernel, by decide +kernel⟩
  have opened : IsRegular ⟨"*OpenUI", "", "", "*JobType: a/b\rc"⟩ :=
    ⟨⟨by decide, List.all_iff_forall_prop.mp (by decide +kernel)⟩, by simp, by decide,
      by decide +kernel, by decide +kernel, by decide +kernel, by decide +kernel⟩
  have regular : ∀ line ∈ tricky, line.IsRegular := by
    simp only [tricky, List.forall_mem_cons]
    refine ⟨?_, ?_, ⟨sized, by simp⟩, trivial, ?_, ?_, ⟨opened, fun _ => by decide +kernel⟩,
      by simp⟩
    · exact (by decide +kernel : Uncut " a *comment: \"".toList)
    · exact List.all_eq_true.mp (rfl : [' ', '\t'].all isBlank = true)
    · exact (by decide +kernel : Uncut "PageSize: \"query\"".toList)
    · exact List.all_eq_true.mp (rfl : [].all isBlank = true)
  exact ⟨regular, parseAll_renderLines .cr regular⟩

end Statement

end PrintConnector.Ppd
