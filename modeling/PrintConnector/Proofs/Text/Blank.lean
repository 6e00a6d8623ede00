import Mathlib.Data.List.DropRight
import PrintConnector.Text.Blank
import PrintConnector.Text.DecimalDigit

namespace PrintConnector.Text

variable {text front back word rest : List Char} {tokens : List (List Char)}

/-- Nothing but blanks, possibly no character. -/
def Blanks (text : List Char) : Prop :=
  ∀ c ∈ text, isBlank c = true

/-- At least one character, and no blank. -/
def IsWord (text : List Char) : Prop :=
  text ≠ [] ∧ ∀ c ∈ text, isBlank c = false

/-- A text is made of words in this order.  A word ends where the text does or
at a blank; blanks may stand before the first word and after the last. -/
def Reads : List (List Char) → List Char → Prop
  | [], text => Blanks text
  | word :: others, text => ∃ gap rest, text = gap ++ (word ++ rest) ∧ Blanks gap ∧ IsWord word ∧
      (∀ c ∈ rest.head?, isBlank c = true) ∧ Reads others rest

/-- No digit of any script is blank. -/
theorem not_isBlank_of_isDecimalDigit {c : Char} (digit : isDecimalDigit c = true) :
    isBlank c = false := by
  have apart : ∀ code ∈ List.range' 0x9 5 ++ List.range' 0x2000 11 ++ [0x20, 0x85, 0xA0, 0x1680,
      0x2028, 0x2029, 0x202F, 0x205F, 0x3000],
      (digitZeros.any fun first => first ≤ code && code < first + 10) = false := by decide
  refine Bool.eq_false_iff.mpr fun blank => Bool.eq_false_iff.mp (apart c.toNat ?_) digit
  simp only [isBlank, Bool.or_eq_true, Bool.and_eq_true, beq_iff_eq, decide_eq_true_eq] at blank
  simp only [List.mem_append, List.mem_range'_1, List.mem_cons, List.not_mem_nil, or_false]
  omega

/-- No visible ASCII character is blank. -/
theorem not_isBlank_of_visible {c : Char} (above : ' ' < c) (below : c ≤ '~') :
    isBlank c = false := by
  have above : 0x20 < c.toNat := above
  have below : c.toNat ≤ 0x7E := below
  refine Bool.eq_false_iff.mpr fun blank => ?_
  simp only [isBlank, Bool.or_eq_true, Bool.and_eq_true, beq_iff_eq, decide_eq_true_eq] at blank
  omega

theorem trimStart_blanks (gap : Blanks front) (text : List Char) :
    trimStart (front ++ text) = trimStart text :=
  List.dropWhile_append_of_pos gap

theorem trimStart_eq_self_iff :
    trimStart text = text ↔ ∀ c ∈ text.head?, isBlank c = false := by
  cases text with
  | nil => simp [trimStart]
  | cons first rest =>
      rw [trimStart, List.dropWhile_eq_self_iff]
      simp

theorem trimEnd_eq_self_iff :
    trimEnd text = text ↔ ∀ c ∈ text.getLast?, isBlank c = false := by
  have reversed : trimEnd text = text ↔ trimStart text.reverse = text.reverse := by
    rw [trimEnd, ← trimStart, List.reverse_eq_iff]
  rw [reversed, trimStart_eq_self_iff, List.head?_reverse]

theorem head?_trimStart (text : List Char) {c : Char}
    (first : c ∈ (trimStart text).head?) : isBlank c = false := by
  have solid := List.head?_dropWhile_not isBlank text
  rw [trimStart, Option.mem_def] at first
  simpa [first] using solid

theorem head?_trim (text : List Char) {c : Char} (first : c ∈ (trim text).head?) :
    isBlank c = false := by
  obtain ⟨rest, whole⟩ : trim text <+: trimStart text := List.rdropWhile_prefix isBlank _
  refine head?_trimStart text ?_
  rw [← whole, List.head?_append, Option.mem_def.mp first]
  rfl

theorem trim_eq_self_iff :
    trim text = text ↔
      (∀ c ∈ text.head?, isBlank c = false) ∧ ∀ c ∈ text.getLast?, isBlank c = false := by
  constructor
  · intro trimmed
    have first : ∀ c ∈ text.head?, isBlank c = false := fun c member =>
      head?_trim text (by rwa [trimmed])
    refine ⟨first, trimEnd_eq_self_iff.mp ?_⟩
    rwa [trim, trimStart_eq_self_iff.mpr first] at trimmed
  · rintro ⟨first, last⟩
    rw [trim, trimStart_eq_self_iff.mpr first, trimEnd_eq_self_iff.mpr last]

theorem trim_trim (text : List Char) : trim (trim text) = trim text := by
  refine trim_eq_self_iff.mpr ⟨fun c first => head?_trim text first, trimEnd_eq_self_iff.mp ?_⟩
  exact List.rdropWhile_idempotent isBlank (trimStart text)

theorem trimEnd_blanks (text : List Char) (gap : Blanks back) :
    trimEnd (text ++ back) = trimEnd text := by
  have gone : ∀ c ∈ back.reverse, isBlank c = true := fun c member =>
    gap c (List.mem_reverse.mp member)
  rw [trimEnd, List.reverse_append, List.dropWhile_append_of_pos gone, ← trimEnd]

theorem trimEnd_eq_nil_iff : trimEnd text = [] ↔ Blanks text :=
  List.rdropWhile_eq_nil_iff

theorem exists_blanks_after_trimEnd (text : List Char) :
    ∃ gap, Blanks gap ∧ text = trimEnd text ++ gap :=
  ⟨text.rtakeWhile isBlank, fun _ member => List.mem_rtakeWhile_imp member,
    List.rdropWhile_append_rtakeWhile.symm⟩

theorem exists_blanks_before_trimStart (text : List Char) :
    ∃ gap, Blanks gap ∧ text = gap ++ trimStart text :=
  ⟨text.takeWhile isBlank, fun _ member => List.mem_takeWhile_imp member,
    List.takeWhile_append_dropWhile.symm⟩

theorem exists_blanks_around_trim (text : List Char) :
    ∃ before after, Blanks before ∧ Blanks after ∧ text = before ++ (trim text ++ after) := by
  obtain ⟨before, blanksBefore, start⟩ := exists_blanks_before_trimStart text
  obtain ⟨after, blanksAfter, whole⟩ := exists_blanks_after_trimEnd (trimStart text)
  exact ⟨before, after, blanksBefore, blanksAfter, by rw [trim, ← whole, ← start]⟩

theorem trimEnd_append (front back : List Char) :
    trimEnd (front ++ back) = trimEnd (front ++ trimEnd back) := by
  obtain ⟨gap, blanks, whole⟩ := exists_blanks_after_trimEnd back
  conv_lhs => rw [whole, ← List.append_assoc, trimEnd_blanks _ blanks]

/-- Nothing up to a character that is not blank is taken from the end. -/
theorem trimEnd_solid {c : Char} (solid : isBlank c = false) (front back : List Char) :
    trimEnd (front ++ c :: back) = front ++ c :: trimEnd back := by
  have kept : (c :: front.reverse).dropWhile isBlank = c :: front.reverse :=
    List.dropWhile_cons_of_neg (by simp [solid])
  have turned : (front ++ c :: back).reverse = back.reverse ++ c :: front.reverse := by simp
  rw [trimEnd, turned, List.dropWhile_append, kept, trimEnd]
  split
  · rename_i none
    rw [List.isEmpty_iff.mp none]
    simp
  · simp

/-- Texts that differ by blanks at the end agree up to any character that is not
blank. -/
theorem exists_of_trimEnd_eq (front : List Char) {c : Char}
    (same : trimEnd text = trimEnd (front ++ c :: back)) (solid : isBlank c = false) :
    ∃ rest, text = front ++ c :: rest ∧ trimEnd rest = trimEnd back := by
  obtain ⟨gap, blanks, whole⟩ := exists_blanks_after_trimEnd text
  refine ⟨trimEnd back ++ gap, ?_, ?_⟩
  · rw [whole, same, trimEnd_solid solid]
    simp
  · rw [trimEnd_blanks _ blanks]
    exact List.rdropWhile_idempotent isBlank back

/-- Blanks around a trimmed text are all that trimming takes. -/
theorem trim_surrounded (trimmed : trim text = text) (before : Blanks front)
    (after : Blanks back) : trim (front ++ (text ++ back)) = text := by
  rw [trim, trimStart_blanks before]
  cases text with
  | nil =>
      rw [List.nil_append, trimStart, List.dropWhile_eq_nil_iff.mpr after]
      rfl
  | cons first rest =>
      obtain ⟨solid, last⟩ := trim_eq_self_iff.mp trimmed
      have whole : trimStart (first :: rest ++ back) = first :: rest ++ back :=
        trimStart_eq_self_iff.mpr (by simpa using solid)
      rw [whole, trimEnd_blanks _ after, trimEnd_eq_self_iff.mpr last]

theorem trim_blanks (text : List Char) (gap : Blanks back) : trim (text ++ back) = trim text := by
  rw [trim, trim, trimStart, List.dropWhile_append]
  split
  · rename_i none
    rw [List.isEmpty_iff] at none
    rw [trimStart, none, trimEnd_eq_nil_iff.mpr, trimEnd_eq_nil_iff.mpr]
    · simp [Blanks]
    · exact fun c member => gap c ((List.dropWhile_suffix _).subset member)
  · exact trimEnd_blanks _ gap

/-- Trimming only cuts. -/
theorem trim_isInfix (text : List Char) : trim text <:+: text :=
  (List.rdropWhile_prefix isBlank _).isInfix.trans (List.dropWhile_suffix isBlank).isInfix

theorem Reads.blanks (gap : Blanks front) (read : Reads tokens text) :
    Reads tokens (front ++ text) := by
  cases tokens with
  | nil =>
      intro c member
      exact (List.mem_append.mp member).elim (gap c) (read c)
  | cons word others =>
      obtain ⟨inner, rest, rfl, blanks, solid, ends, others⟩ := read
      refine ⟨front ++ inner, rest, by simp, ?_, solid, ends, others⟩
      intro c member
      exact (List.mem_append.mp member).elim (gap c) (blanks c)

theorem words_blanks (gap : Blanks front) (text : List Char) :
    words (front ++ text) = words text := by
  induction front with
  | nil => rfl
  | cons c rest ih =>
      obtain ⟨blank, others⟩ := List.forall_mem_cons.mp gap
      rw [← ih others, words, words, List.cons_append, words.go, blank]
      rfl

/-- An open word takes in what comes up to the next blank. -/
theorem words_go_word (solid : ∀ c ∈ word, isBlank c = false) (taken text : List Char) :
    words.go taken (word ++ text) = words.go (word.reverse ++ taken) text := by
  induction word generalizing taken with
  | nil => rfl
  | cons c rest ih =>
      obtain ⟨first, others⟩ := List.forall_mem_cons.mp solid
      rw [List.cons_append, words.go, first, if_neg Bool.false_ne_true, ih others]
      simp

/-- At a blank, or where the text ends, an open word is complete. -/
theorem words_go_end {taken : List Char} (some : taken ≠ [])
    (ends : ∀ c ∈ text.head?, isBlank c = true) :
    words.go taken text = taken.reverse :: words text := by
  have open_ : taken.isEmpty = false := by simpa using some
  cases text with
  | nil => rw [words.go, open_]; rfl
  | cons c rest =>
      have blank : isBlank c = true := ends c rfl
      rw [words, words.go, words.go, blank, open_]
      rfl

theorem words_go_reads (taken text : List Char) (solid : ∀ c ∈ taken, isBlank c = false) :
    Reads (words.go taken text) (taken.reverse ++ text) := by
  have word (some : taken ≠ []) : IsWord taken.reverse :=
    ⟨by simpa using some, fun c member => solid c (List.mem_reverse.mp member)⟩
  induction text generalizing taken with
  | nil =>
      rw [words.go]
      split
      · rename_i none
        rw [List.isEmpty_iff.mp none]
        exact fun c member => absurd member (by simp)
      · rename_i some
        exact ⟨[], [], by simp, by simp [Blanks], word (by simpa using some), by simp, by
          simp [Reads, Blanks]⟩
  | cons c rest ih =>
      by_cases blank : isBlank c = true
      · have gap : Blanks [c] := by simpa [Blanks] using blank
        have later : Reads (words.go [] rest) (c :: rest) :=
          (ih [] (by simp) (by simp)).blanks gap
        rw [words.go, if_pos blank]
        split
        · rename_i none
          rwa [List.isEmpty_iff.mp none]
        · rename_i some
          exact ⟨[], c :: rest, by simp, by simp [Blanks], word (by simpa using some),
            by simpa using blank, later⟩
      · rw [words.go, if_neg blank]
        have grown : ∀ d ∈ c :: taken, isBlank d = false :=
          List.forall_mem_cons.mpr ⟨by simpa using blank, solid⟩
        have longer := ih (c :: taken) grown fun _ =>
          ⟨by simp, fun d member => grown d (List.mem_reverse.mp member)⟩
        simpa using longer

/-- `words` finds the words that a text is made of, and a text is made of no
others. -/
theorem words_eq_iff : words text = tokens ↔ Reads tokens text := by
  constructor
  · rintro rfl
    exact words_go_reads [] text (by simp)
  · intro read
    induction tokens generalizing text with
    | nil =>
        have alone := words_blanks read []
        rw [List.append_nil] at alone
        exact alone
    | cons word others ih =>
        obtain ⟨gap, rest, rfl, blanks, ⟨some, solid⟩, ends, others⟩ := read
        rw [words_blanks blanks, words, words_go_word solid,
          words_go_end (by simpa using some) ends, ih others]
        simp

end PrintConnector.Text
