import PrintConnector.Proofs.Ppd.Reading

/-! How the lines of a description end matters in two places only.

Carriage returns and line feeds are cut at alike and are both white space.  But a
bare value stops at a line feed and not at a carriage return, and white space right
before a colon or a slash is read if it is more than one character.  So a record that
is no statement with line feeds may be one with other line ends.  All others give the
same statements, with the same line breaks in their fields.
-/

namespace PrintConnector.Ppd

open PrintConnector.Text

variable {lineEnd : LineEnd} {text record rest letters value : List Char} {mark : Char}
  {p : Char → Bool}

/-- A text with its line feeds replaced. -/
def LineEnd.rewrite (lineEnd : LineEnd) (text : List Char) : List Char :=
  text.flatMap fun c => if c = '\n' then lineEnd.chars else [c]

/-- A text with every line break read as a line feed. -/
def unified : List Char → List Char
  | [] => []
  | '\r' :: '\n' :: rest => '\n' :: unified rest
  | '\r' :: rest => '\n' :: unified rest
  | c :: rest => c :: unified rest

/-- A statement with every field changed. -/
def Statement.mapFields (change : List Char → List Char) (statement : Statement) : Statement where
  keyword := .ofList (change statement.keyword.toList)
  option := .ofList (change statement.option.toList)
  translation := .ofList (change statement.translation.toList)
  value := .ofList (change statement.value.toList)

namespace LineEnd

@[simp] theorem rewrite_nil : lineEnd.rewrite [] = [] :=
  rfl

@[simp] theorem rewrite_feed :
    lineEnd.rewrite ('\n' :: rest) = lineEnd.chars ++ lineEnd.rewrite rest :=
  rfl

theorem rewrite_cons {c : Char} (plain : c ≠ '\n') :
    lineEnd.rewrite (c :: rest) = c :: lineEnd.rewrite rest := by
  simp [rewrite, plain]

theorem rewrite_append (front back : List Char) :
    lineEnd.rewrite (front ++ back) = lineEnd.rewrite front ++ lineEnd.rewrite back :=
  List.flatMap_append

theorem rewrite_plain (plain : '\n' ∉ text) : lineEnd.rewrite text = text := by
  induction text with
  | nil => rfl
  | cons c rest ih =>
      rw [List.mem_cons, not_or] at plain
      rw [rewrite_cons (Ne.symm plain.1), ih plain.2]

/-- A text by its characters, with the line feeds apart. -/
@[elab_as_elim]
theorem feed_induction {motive : List Char → Prop} (nil : motive [])
    (feed : ∀ rest, motive rest → motive ('\n' :: rest))
    (plain : ∀ c rest, c ≠ '\n' → motive rest → motive (c :: rest)) (text : List Char) :
    motive text := by
  induction text with
  | nil => exact nil
  | cons c rest ih =>
      by_cases same : c = '\n'
      · exact same ▸ feed rest ih
      · exact plain c rest same ih

theorem rewrite_lf : LineEnd.lf.rewrite = id := by
  funext text
  induction text using feed_induction with
  | nil => rfl
  | feed rest ih => exact congrArg ('\n' :: ·) ih
  | plain c rest plain ih => exact (rewrite_cons plain).trans (congrArg (c :: ·) ih)

theorem rewrite_eq_nil_iff : lineEnd.rewrite text = [] ↔ text = [] := by
  cases text using feed_induction with
  | nil => simp
  | feed rest => cases lineEnd <;> simp [chars]
  | plain c rest plain => simp [rewrite_cons plain]

theorem feed_not_mem_cr (text : List Char) : '\n' ∉ LineEnd.cr.rewrite text := by
  intro member
  obtain ⟨c, -, here⟩ := List.mem_flatMap.mp member
  split at here
  · exact absurd here (by decide)
  · rename_i plain
    exact plain (List.mem_singleton.mp here).symm

/-- A class of characters that does not tell the line breaks apart. -/
theorem takeWhile_rewrite (same : p '\r' = p '\n') (text : List Char) :
    (lineEnd.rewrite text).takeWhile p = lineEnd.rewrite (text.takeWhile p) := by
  induction text using feed_induction with
  | nil => rfl
  | feed rest ih => cases inside : p '\n' <;> cases lineEnd <;> simp_all [chars]
  | plain c rest plain ih =>
      rw [rewrite_cons plain, List.takeWhile_cons, List.takeWhile_cons]
      split
      · rw [ih, rewrite_cons plain]
      · rfl

theorem dropWhile_rewrite (same : p '\r' = p '\n') (text : List Char) :
    (lineEnd.rewrite text).dropWhile p = lineEnd.rewrite (text.dropWhile p) := by
  induction text using feed_induction with
  | nil => rfl
  | feed rest ih => cases inside : p '\n' <;> cases lineEnd <;> simp_all [chars]
  | plain c rest plain ih =>
      rw [rewrite_cons plain, List.dropWhile_cons, List.dropWhile_cons]
      split
      · exact ih
      · rw [rewrite_cons plain]

theorem all_rewrite (same : p '\r' = p '\n') (text : List Char) :
    (lineEnd.rewrite text).all p = text.all p := by
  induction text using feed_induction with
  | nil => rfl
  | feed rest ih => cases lineEnd <;> simp_all [chars]
  | plain c rest plain ih => rw [rewrite_cons plain, List.all_cons, List.all_cons, ih]

theorem trimEnd_rewrite (text : List Char) :
    trimEnd (lineEnd.rewrite text) = lineEnd.rewrite (trimEnd text) := by
  induction text using List.reverseRecOn with
  | nil => rfl
  | append_singleton front c ih =>
      rw [rewrite_append]
      cases blank : isBlank c with
      | true =>
          have gap : Blanks (lineEnd.rewrite [c]) := by
            by_cases feed : c = '\n'
            · subst feed
              simpa using lineEnd.blanks
            · simpa [rewrite_cons feed, Blanks] using blank
          rw [trimEnd_blanks _ gap, ih, trimEnd_blanks _ (by simpa [Blanks] using blank)]
      | false =>
          have plain : c ≠ '\n' := by
            rintro rfl
            exact absurd blank (by decide)
          rw [rewrite_cons plain, rewrite_nil, trimEnd_solid blank, trimEnd_solid blank,
            rewrite_append, rewrite_cons plain]
          rfl

theorem trim_rewrite (text : List Char) :
    trim (lineEnd.rewrite text) = lineEnd.rewrite (trim text) := by
  rw [trim, trimStart, dropWhile_rewrite (by decide), trimEnd_rewrite]
  rfl

theorem head?_rewrite {c : Char} (solid : isBlank c = false) :
    (lineEnd.rewrite text).head? = some c ↔ text.head? = some c := by
  have unbroken : c ≠ '\n' ∧ c ≠ '\r' := by
    constructor <;> rintro rfl <;> exact absurd solid (by decide)
  cases text using feed_induction with
  | nil => rfl
  | feed rest => cases lineEnd <;> simp [chars, Ne.symm unbroken.1, Ne.symm unbroken.2]
  | plain d rest plain =>
      rw [rewrite_cons plain]
      rfl

theorem unified_cons {c : Char} (plain : c ≠ '\r') : unified (c :: rest) = c :: unified rest := by
  rw [unified.eq_def]
  split <;> simp_all

theorem unified_return (alone : rest.head? ≠ some '\n') :
    unified ('\r' :: rest) = '\n' :: unified rest := by
  rw [unified]
  rintro more rfl
  exact alone rfl

/-- Without carriage returns of its own a text is found again. -/
theorem unified_rewrite (feeds : '\r' ∉ text) : unified (lineEnd.rewrite text) = text := by
  induction text using feed_induction with
  | nil => rfl
  | feed rest ih =>
      replace ih := ih (List.not_mem_of_not_mem_cons feeds)
      rw [rewrite_feed]
      cases lineEnd with
      | lf => exact (unified_cons (by decide)).trans (congrArg _ ih)
      | crlf => exact congrArg ('\n' :: ·) ih
      | cr =>
          have alone : (LineEnd.cr.rewrite rest).head? ≠ some '\n' := fun first =>
            feed_not_mem_cr rest (List.mem_of_mem_head? first)
          exact (unified_return alone).trans (congrArg _ ih)
  | plain c rest plain ih =>
      obtain ⟨other, feeds⟩ := List.ne_and_not_mem_of_not_mem_cons feeds
      rw [rewrite_cons plain, unified_cons (Ne.symm other), ih feeds]

theorem length_le_rewrite (text : List Char) : text.length ≤ (lineEnd.rewrite text).length := by
  induction text using feed_induction with
  | nil => exact Nat.le_refl 0
  | feed rest ih => cases lineEnd <;> simp [chars] <;> omega
  | plain c rest plain ih =>
      rw [rewrite_cons plain]
      exact Nat.succ_le_succ ih

/-- Only a pair takes more room than the line feed that it stands for. -/
theorem length_rewrite_eq_one (pair : lineEnd = .crlf → text ≠ ['\n']) :
    (lineEnd.rewrite text).length = 1 ↔ text.length = 1 := by
  match text with
  | [] => rfl
  | [c] =>
      by_cases feed : c = '\n'
      · subst feed
        cases lineEnd <;> simp_all [chars]
      · simp [rewrite_cons feed]
  | c :: d :: rest =>
      have long := lineEnd.length_le_rewrite (c :: d :: rest)
      simp only [List.length_cons] at long ⊢
      omega

end LineEnd

namespace Statement

/-- A line break right after the keyword and right before what may follow it. -/
def IsStray (text : List Char) : Prop :=
  ∃ mark rest, text = '\n' :: mark :: rest ∧ isOptionChar mark = false

theorem readOption?_rewrite (whole : lineEnd = .crlf → ¬ IsStray text) :
    readOption? (lineEnd.rewrite text) =
      (readOption? text).map (Prod.map lineEnd.rewrite lineEnd.rewrite) := by
  rw [readOption?, readOption?, LineEnd.takeWhile_rewrite (by decide),
    LineEnd.dropWhile_rewrite (by decide)]
  simp only [List.isEmpty_iff, LineEnd.rewrite_eq_nil_iff]
  split
  · rfl
  · rename_i some
    cases split : text.dropWhile isBlank with
    | nil => rfl
    | cons c rest =>
        have solid : isBlank c = false := by
          simpa [split] using List.head?_dropWhile_not isBlank text
        have plain : c ≠ '\n' := by
          rintro rfl
          exact absurd solid (by decide)
        rw [LineEnd.rewrite_cons plain]
        simp only
        rw [← LineEnd.rewrite_cons plain]
        cases inside : isOptionChar c with
        | true =>
            rw [LineEnd.takeWhile_rewrite (by decide), LineEnd.dropWhile_rewrite (by decide),
              LineEnd.trim_rewrite]
            rfl
        | false =>
            -- One blank before what may follow cannot be read, and more than one can.
            have pair : lineEnd = .crlf → text.takeWhile isBlank ≠ ['\n'] := by
              intro crlf alone
              refine whole crlf ⟨c, rest, ?_, inside⟩
              rw [← List.takeWhile_append_dropWhile (p := isBlank) (l := text), alone, split]
              rfl
            simp only [LineEnd.length_rewrite_eq_one pair, Bool.false_eq_true, if_false]
            split <;> rfl

theorem readTranslation_rewrite (text : List Char) :
    readTranslation (lineEnd.rewrite text) =
      Prod.map lineEnd.rewrite lineEnd.rewrite (readTranslation text) := by
  by_cases slash : text.head? = some '/'
  · obtain ⟨rest, rfl⟩ := List.head?_eq_some_iff.mp slash
    rw [LineEnd.rewrite_cons (by decide), readTranslation, readTranslation,
      LineEnd.takeWhile_rewrite (by decide), LineEnd.dropWhile_rewrite (by decide),
      LineEnd.trim_rewrite]
    rfl
  · rw [readTranslation_eq_self slash,
      readTranslation_eq_self (mt (LineEnd.head?_rewrite (by decide)).mp slash)]
    rfl

theorem readHeading?_rewrite
    (whole : lineEnd = .crlf → ¬ IsStray (record.dropWhile isKeywordChar)) :
    readHeading? (lineEnd.rewrite record) =
      (readHeading? record).map (Prod.map (mapFields lineEnd.rewrite) lineEnd.rewrite) := by
  have plain : '\n' ∉ record.takeWhile isKeywordChar := fun member =>
    absurd (List.mem_takeWhile_imp member) (by decide)
  rw [readHeading?, readHeading?, LineEnd.takeWhile_rewrite (by decide),
    LineEnd.dropWhile_rewrite (by decide), LineEnd.rewrite_plain plain, readOption?_rewrite whole]
  split
  · rfl
  · rw [Option.map_map, Option.map_map]
    congr 1
    funext pair
    simp [readTranslation_rewrite, Statement.mapFields, LineEnd.rewrite_plain plain]

theorem readQuoted?_rewrite (text : List Char) :
    readQuoted? (lineEnd.rewrite text) = (readQuoted? text).map lineEnd.rewrite := by
  by_cases quote : text.head? = some '"'
  · obtain ⟨rest, rfl⟩ := List.head?_eq_some_iff.mp quote
    rw [LineEnd.rewrite_cons (by decide), readQuoted?, readQuoted?,
      LineEnd.takeWhile_rewrite (by decide), LineEnd.dropWhile_rewrite (by decide),
      LineEnd.trim_rewrite]
    cases split : rest.dropWhile (· != '"') with
    | nil => rfl
    | cons c after =>
        obtain rfl : c = '"' := by
          simpa [split] using List.head?_dropWhile_not (· != '"') rest
        rw [LineEnd.rewrite_cons (by decide)]
        simp only [LineEnd.all_rewrite (p := isBlank) (by decide)]
        split <;> rfl
  · rw [readQuoted?_eq_none quote,
      readQuoted?_eq_none (mt (LineEnd.head?_rewrite (by decide)).mp quote)]
    rfl

/-- Without line feeds all that is left is the line. -/
theorem readBare?_cr (text : List Char) :
    readBare? (LineEnd.cr.rewrite text) = some (LineEnd.cr.rewrite (trim text)) := by
  have whole := readBare?_append (LineEnd.feed_not_mem_cr text) [] (by simp)
  rw [List.append_nil] at whole
  rw [whole, ← LineEnd.trim_rewrite]
  rfl

theorem readBare?_rewrite (held : lineEnd = .cr → (readBare? text).isSome) :
    readBare? (lineEnd.rewrite text) = (readBare? text).map lineEnd.rewrite := by
  obtain ⟨line, rest, rfl, unbroken, ends⟩ := exists_line text
  have same : lineEnd.rewrite (trim line) = trim line := by
    rw [← LineEnd.trim_rewrite, LineEnd.rewrite_plain unbroken]
  cases lineEnd with
  | lf => simp [LineEnd.rewrite_lf]
  | crlf =>
      rw [readBare?_append unbroken _ ends, LineEnd.rewrite_append, LineEnd.rewrite_plain unbroken]
      cases rest with
      | nil => simpa [same] using readBare?_append unbroken [] (by simp)
      | cons c rest =>
          obtain rfl := ends c rfl
          -- The first half of the pair is a blank at the end of the line.
          have longer : '\n' ∉ line ++ ['\r'] := by simpa using unbroken
          have read := readBare?_append longer ('\n' :: LineEnd.crlf.rewrite rest) (by simp)
          rw [trim_blanks _ (by simp [Blanks]; decide), List.append_assoc] at read
          refine read.trans ?_
          rw [List.all_cons, List.all_cons, LineEnd.all_rewrite (p := isBlank) (by decide)]
          split
          · rw [Option.map_some, same]
          · rfl
  | cr =>
      have read := readBare?_append unbroken _ ends
      have some := held rfl
      rw [read] at some ⊢
      split at some
      · rename_i blanks
        rw [readBare?_cr, trim_blanks _ (List.all_eq_true.mp blanks), if_pos blanks]
        rfl
      · contradiction

theorem readValue?_rewrite
    (held : lineEnd = .cr → text.head? = some ':' → (readValue? text).isSome) :
    readValue? (lineEnd.rewrite text) = (readValue? text).map lineEnd.rewrite := by
  by_cases colon : text.head? = some ':'
  · obtain ⟨body, rfl⟩ := List.head?_eq_some_iff.mp colon
    rw [LineEnd.rewrite_cons (by decide), readValue?, readValue?, trimStart,
      LineEnd.dropWhile_rewrite (by decide), readQuoted?_rewrite, ← trimStart]
    cases quoted : readQuoted? (trimStart body) with
    | some value => rfl
    | none =>
        refine readBare?_rewrite fun cr => ?_
        simpa [readValue?, quoted] using held cr rfl
  · by_cases none : text = []
    · rw [none]
      rfl
    · rw [readValue?_eq_none none colon, readValue?_eq_none (mt LineEnd.rewrite_eq_nil_iff.mp none)
        (mt (LineEnd.head?_rewrite (by decide)).mp colon)]
      rfl

theorem isSome_readValue?_cr (body : List Char) :
    (readValue? (':' :: LineEnd.cr.rewrite body)).isSome := by
  rw [readValue?, trimStart, LineEnd.dropWhile_rewrite (by decide), readBare?_cr]
  cases readQuoted? _ <;> rfl

theorem read?_rewrite (whole : lineEnd = .crlf → ¬ IsStray (record.dropWhile isKeywordChar))
    (held : lineEnd = .cr → ∀ heading body, readHeading? record = some (heading, ':' :: body) →
      (readValue? (':' :: body)).isSome) :
    read? (lineEnd.rewrite record) = (read? record).map (mapFields lineEnd.rewrite) := by
  rw [read?_eq, read?_eq, readHeading?_rewrite whole]
  cases front : readHeading? record with
  | none => rfl
  | some pair =>
      obtain ⟨heading, rest⟩ := pair
      have value : readValue? (lineEnd.rewrite rest) = (readValue? rest).map lineEnd.rewrite := by
        refine readValue?_rewrite fun cr colon => ?_
        obtain ⟨body, rfl⟩ := List.head?_eq_some_iff.mp colon
        exact held cr heading body front
      simp only [Option.map_some, Option.bind_some, Prod.map_apply, value, Option.map_map]
      congr 1
      funext value
      simp [mapFields]

end Statement

/-- What a record is read as where lines end otherwise, up to the line breaks in its
fields. -/
def Statement.readUnder? (lineEnd : LineEnd) (record : List Char) : Option Statement :=
  (read? (lineEnd.rewrite record)).map (mapFields unified)

/-- The statements of a description where lines end otherwise, up to the line breaks
in their fields. -/
def Statement.parseUnder (lineEnd : LineEnd) (text : String) : List Statement :=
  (parseAll (.ofList (lineEnd.rewrite text.toList))).map (mapFields unified)

/-- The record is no statement with line feeds, and is one with other line ends.  A
pair before what follows the keyword is overlooked; with carriage returns a bare
value goes on to the end of its record. -/
def LineEnd.Mends : LineEnd → List Char → Prop
  | .lf, _ => False
  | .crlf, record => ∃ keyword mark rest, record = keyword ++ '\n' :: mark :: rest ∧
      (∀ c ∈ keyword, Statement.isKeywordChar c = true) ∧ (mark = ':' ∨ mark = '/') ∧
      (Statement.read? (keyword ++ mark :: rest)).isSome
  | .cr, record => ∃ heading body, Statement.readHeading? record = some (heading, ':' :: body) ∧
      Statement.readValue? (':' :: body) = none

namespace Statement

/-- A stray line break hides a statement, and a pair does not. -/
theorem readHeading?_stray (inside : ∀ c ∈ letters, isKeywordChar c = true)
    (ends : isOptionChar mark = false) (rest : List Char) :
    readHeading? (letters ++ '\n' :: mark :: rest) = none ∧
      readHeading? (letters ++ '\r' :: '\n' :: mark :: rest) =
        readHeading? (letters ++ mark :: rest) := by
  have stop : isBlank mark = false ∧ isKeywordChar mark = false := by
    obtain rfl | rfl := isOptionChar_eq_false_iff.mp ends <;> decide
  have feed : isBlank '\n' = true ∧ isKeywordChar '\n' = false := by decide
  have carriage : isBlank '\r' = true ∧ isKeywordChar '\r' = false := by decide
  have hidden : readOption? ('\n' :: mark :: rest) = none := by
    simp [readOption?, feed, stop, ends]
  have bare : readOption? (mark :: rest) = some ([], mark :: rest) := by
    simp [readOption?, stop]
  have paired : readOption? ('\r' :: '\n' :: mark :: rest) = some ([], mark :: rest) := by
    simp [readOption?, feed, carriage, stop, ends]
  rw [readHeading?_append inside (by simp [feed]), readHeading?_append inside (by simp [carriage]),
    readHeading?_append inside (by simp [stop]), hidden, bare, paired]
  exact ⟨ite_self _, rfl⟩

theorem read?_stray (inside : ∀ c ∈ letters, isKeywordChar c = true)
    (ends : isOptionChar mark = false) (rest : List Char) :
    read? (letters ++ '\n' :: mark :: rest) = none ∧
      read? (LineEnd.crlf.rewrite (letters ++ '\n' :: mark :: rest)) =
        (read? (letters ++ mark :: rest)).map (mapFields LineEnd.crlf.rewrite) := by
  obtain ⟨hidden, shown⟩ := readHeading?_stray inside ends rest
  refine ⟨by rw [read?_eq, hidden]; rfl, ?_⟩
  have solid : isKeywordChar mark = false ∧ mark ≠ '\n' := by
    obtain rfl | rfl := isOptionChar_eq_false_iff.mp ends <;> decide
  have whole : ¬ IsStray ((letters ++ mark :: rest).dropWhile isKeywordChar) := by
    rw [dropWhile_stop _ inside (by simp [solid])]
    rintro ⟨_, _, split, -⟩
    exact solid.2 (List.cons.inj split).1
  rw [← read?_rewrite (fun _ => whole) (by simp)]
  have plain : '\n' ∉ letters := fun member => absurd (inside _ member) (by decide)
  rw [LineEnd.rewrite_append, LineEnd.rewrite_append, LineEnd.rewrite_feed,
    LineEnd.rewrite_cons solid.2, LineEnd.rewrite_plain plain]
  have same := (readHeading?_stray inside ends (LineEnd.crlf.rewrite rest)).2
  rw [read?_eq, read?_eq, ← same]
  rfl

theorem read?_of_mends (mends : lineEnd.Mends record) :
    read? record = none ∧ (read? (lineEnd.rewrite record)).isSome := by
  cases lineEnd with
  | lf => exact mends.elim
  | crlf =>
      obtain ⟨letters, mark, rest, rfl, inside, ends, read⟩ := mends
      obtain ⟨hidden, shown⟩ := read?_stray inside (isOptionChar_eq_false_iff.mpr ends) rest
      exact ⟨hidden, by rwa [shown, Option.isSome_map]⟩
  | cr =>
      obtain ⟨heading, body, front, unread⟩ := mends
      refine ⟨by simp [read?_eq, front, unread], ?_⟩
      rw [read?_eq, readHeading?_rewrite (by simp), front]
      simp only [Option.map_some, Option.bind_some, Prod.map_apply, Option.isSome_map]
      rw [LineEnd.rewrite_cons (by decide)]
      exact isSome_readValue?_cr body

theorem read?_of_not_mends (same : ¬ lineEnd.Mends record) :
    read? (lineEnd.rewrite record) = (read? record).map (mapFields lineEnd.rewrite) := by
  by_cases stray : lineEnd = .crlf ∧ IsStray (record.dropWhile isKeywordChar)
  · obtain ⟨rfl, mark, rest, after, ends⟩ := stray
    have inside : ∀ c ∈ record.takeWhile isKeywordChar, isKeywordChar c = true := fun _ member =>
      List.mem_takeWhile_imp member
    have split : record = record.takeWhile isKeywordChar ++ '\n' :: mark :: rest := by
      rw [← after, List.takeWhile_append_dropWhile]
    obtain ⟨hidden, shown⟩ := read?_stray inside ends rest
    rw [← split] at hidden shown
    have unread : read? (record.takeWhile isKeywordChar ++ mark :: rest) = none := by
      by_contra read
      exact same ⟨_, mark, rest, split, inside, isOptionChar_eq_false_iff.mp ends,
        Option.isSome_iff_ne_none.mpr read⟩
    rw [hidden, shown, unread]
  · refine read?_rewrite (fun crlf gap => stray ⟨crlf, gap⟩) ?_
    rintro rfl heading body front
    by_contra unread
    exact same ⟨heading, body, front, by simpa using unread⟩

/-- A line break that no star follows stays in its record. -/
theorem records_break {first : List Char} {others : List (List Char)}
    (follow : records rest = first :: others) (star : rest.head? ≠ some '*')
    (alone : lineEnd = .cr → '\n' ∉ rest) :
    records (lineEnd.chars ++ rest) = (lineEnd.chars ++ first) :: others := by
  cases lineEnd with
  | lf => exact records_cons follow (fun _ => star) (by simp)
  | crlf =>
      refine records_cons (records_cons follow (fun _ => star) (by simp)) (by simp) ?_
      rintro - ⟨back, ahead⟩
      obtain rfl : '*' :: back = rest := by simpa using ahead
      exact star rfl
  | cr =>
      refine records_cons follow (fun _ => star) ?_
      rintro - ⟨back, rfl⟩
      exact alone rfl (List.mem_cons_self ..)

theorem records_rewrite (feeds : '\r' ∉ text) :
    records (lineEnd.rewrite text) = (records text).map lineEnd.rewrite := by
  fun_induction records text with
  | case1 => rfl
  | case2 => exact absurd (List.mem_cons_self ..) feeds
  | case3 => exact absurd (List.mem_cons_self ..) feeds
  | case4 rest ih =>
      rw [LineEnd.rewrite_feed, LineEnd.rewrite_cons (by decide), List.map_cons, ← ih (by simp_all)]
      cases lineEnd <;> rfl
  | case5 c rest _ _ _ none =>
      obtain ⟨first, others, some⟩ := exists_records rest
      exact absurd (none.symm.trans some) (by simp)
  | case6 c rest _ _ star first others split ih =>
      obtain ⟨plain, feeds⟩ := List.ne_and_not_mem_of_not_mem_cons feeds
      have follow := ih feeds
      rw [split, List.map_cons] at follow
      rw [List.map_cons]
      by_cases feed : c = '\n'
      · subst feed
        rw [LineEnd.rewrite_feed, LineEnd.rewrite_feed]
        refine records_break follow (mt (LineEnd.head?_rewrite (by decide)).mp ?_) ?_
        · intro first
          obtain ⟨rest, rfl⟩ := List.head?_eq_some_iff.mp first
          exact star rest rfl rfl
        · rintro rfl
          exact LineEnd.feed_not_mem_cr rest
      · rw [LineEnd.rewrite_cons feed, LineEnd.rewrite_cons feed]
        exact records_cons follow (by simp [feed, Ne.symm plain]) (by simp [Ne.symm plain])

theorem dropStar_rewrite (text : List Char) :
    dropStar (lineEnd.rewrite text) = lineEnd.rewrite (dropStar text) := by
  by_cases star : text.head? = some '*'
  · obtain ⟨rest, rfl⟩ := List.head?_eq_some_iff.mp star
    rw [LineEnd.rewrite_cons (by decide)]
    rfl
  · rw [dropStar_eq_self star, dropStar_eq_self (mt (LineEnd.head?_rewrite (by decide)).mp star)]

theorem recordsOf_rewrite (feeds : '\r' ∉ text) :
    recordsOf (lineEnd.rewrite text) = (recordsOf text).map lineEnd.rewrite := by
  obtain ⟨first, others, split⟩ := exists_records text
  rw [recordsOf, recordsOf, records_rewrite feeds, split]
  exact congrArg (· :: others.map lineEnd.rewrite) (dropStar_rewrite first)

theorem mapFields_mapFields (change back : List Char → List Char) (statement : Statement) :
    (statement.mapFields change).mapFields back = statement.mapFields (back ∘ change) := by
  simp [mapFields]

theorem mapFields_eq_self {statement : Statement} {change : List Char → List Char}
    (kept : ∀ field ∈ [statement.keyword, statement.option, statement.translation,
      statement.value], change field.toList = field.toList) :
    statement.mapFields change = statement := by
  simp_all [mapFields]

/-- Reading line breaks as line feeds undoes the change of a record's line ends. -/
theorem mapFields_unified {statement : Statement} (read : read? record = some statement)
    (feeds : '\r' ∉ record) :
    (statement.mapFields lineEnd.rewrite).mapFields unified = statement := by
  rw [mapFields_mapFields]
  refine mapFields_eq_self fun field member => ?_
  have inside := (infix_of_read? read field member).subset
  exact LineEnd.unified_rewrite fun returned => feeds (inside returned)

/-- A record that is read where lines end with line feeds is read alike elsewhere,
and what is not read there is read elsewhere only if it is mended. -/
theorem readUnder?_eq_iff (feeds : '\r' ∉ record) :
    readUnder? lineEnd record = read? record ↔ ¬ lineEnd.Mends record := by
  constructor
  · intro same mends
    obtain ⟨hidden, shown⟩ := read?_of_mends mends
    rw [hidden, readUnder?, Option.map_eq_none_iff] at same
    simp [same] at shown
  · intro kept
    rw [readUnder?, read?_of_not_mends kept]
    cases read : read? record with
    | none => rfl
    | some statement => exact congrArg some (mapFields_unified read feeds)

theorem parseUnder_eq (lineEnd : LineEnd) (feeds : '\r' ∉ text) :
    parseUnder lineEnd (.ofList text) = (recordsOf text).filterMap (readUnder? lineEnd) := by
  rw [parseUnder, parseAll_eq, String.toList_ofList, String.toList_ofList,
    recordsOf_rewrite feeds, List.filterMap_map, List.map_filterMap]
  rfl

section

variable {α β : Type} {list : List α} {first second : α → Option β}

/-- A reader that reads all that another reads. -/
theorem filterMap_sublist (more : ∀ x ∈ list, second x = first x ∨ first x = none) :
    (list.filterMap first).Sublist (list.filterMap second) := by
  induction list with
  | nil => exact .slnil
  | cons x rest ih =>
      obtain ⟨here, later⟩ := List.forall_mem_cons.mp more
      rw [List.filterMap_cons, List.filterMap_cons]
      obtain same | none := here
      · rw [same]
        cases first x with
        | none => exact ih later
        | some y => exact (ih later).cons_cons y
      · rw [none]
        cases second x with
        | none => exact ih later
        | some y => exact (ih later).cons y

theorem filterMap_eq_iff (more : ∀ x ∈ list, second x = first x ∨ first x = none) :
    list.filterMap second = list.filterMap first ↔ ∀ x ∈ list, second x = first x := by
  refine ⟨fun same => ?_, List.filterMap_congr⟩
  induction list with
  | nil => simp
  | cons x rest ih =>
      obtain ⟨here, later⟩ := List.forall_mem_cons.mp more
      have shorter := (filterMap_sublist later).length_le
      rw [List.filterMap_cons, List.filterMap_cons] at same
      have here : second x = first x := by
        obtain here | none := here
        · exact here
        · cases read : second x with
          | none => exact none.symm
          | some y =>
              -- What only the second reads makes its list longer for good.
              rw [none, read] at same
              have longer := congrArg List.length same
              simp only [List.length_cons] at longer
              omega
      rw [here] at same
      refine List.forall_mem_cons.mpr ⟨here, ih later ?_⟩
      split at same
      · exact same
      · exact (List.cons.inj same).2

end

/-- With other line ends a description gives at least the statements that it gives
with line feeds.  It gives the same ones if and only if no record is mended. -/
theorem parseUnder_parseAll (lineEnd : LineEnd) {text : String} (feeds : '\r' ∉ text.toList) :
    (parseAll text).Sublist (parseUnder lineEnd text) ∧
      (parseUnder lineEnd text = parseAll text ↔
        ∀ record ∈ recordsOf text.toList, ¬ lineEnd.Mends record) := by
  have unreturned : ∀ record ∈ recordsOf text.toList, '\r' ∉ record := fun record here returned =>
    feeds (recordsOf_subset here returned)
  have more : ∀ record ∈ recordsOf text.toList,
      readUnder? lineEnd record = read? record ∨ read? record = none := by
    intro record here
    by_cases mends : lineEnd.Mends record
    · exact .inr (read?_of_mends mends).1
    · exact .inl ((readUnder?_eq_iff (unreturned record here)).mpr mends)
  have written := parseUnder_eq lineEnd feeds
  rw [String.ofList_toList] at written
  rw [written, parseAll_eq, filterMap_eq_iff more]
  refine ⟨filterMap_sublist more, forall₂_congr fun record here => ?_⟩
  exact readUnder?_eq_iff (unreturned record here)

/-- A value that runs on after its line, after one between quotation marks that runs
over two. -/
def runsOn : String :=
  "*% note\n*PageSize A4/A4: \"a\nb\"\n*End\n\n*Foo: bar\nbaz"

theorem runsOn_parsed :
    '\r' ∉ runsOn.toList ∧ (parseAll runsOn).Sublist (parseUnder .cr runsOn) ∧
      (parseUnder .cr runsOn = parseAll runsOn ↔
        ∀ record ∈ recordsOf runsOn.toList, ¬ LineEnd.cr.Mends record) :=
  have feeds : '\r' ∉ runsOn.toList := by decide +kernel
  ⟨feeds, parseUnder_parseAll .cr feeds⟩

/-- A value that runs on after its line is read where carriage returns end the lines,
and a line break before a colon is overlooked where pairs do. -/
theorem lineEnds_differ :
    parseUnder .cr "*Foo: bar\nbaz" ≠ parseAll "*Foo: bar\nbaz" ∧
      parseUnder .crlf "*Foo\n: bar" ≠ parseAll "*Foo\n: bar" := by
  decide +kernel

end Statement

end PrintConnector.Ppd
