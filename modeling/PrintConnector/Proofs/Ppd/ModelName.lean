import Mathlib.Logic.Function.Iterate
import PrintConnector.Ppd.Name.Model
import PrintConnector.Proofs.Text.Blank
import PrintConnector.Proofs.Text.Pattern

namespace PrintConnector.Ppd

open PrintConnector.Text PrintConnector.Text.Pattern

variable {text middle front piece : List Char} {pieces others : List (List Char)} {c : Char}

/-- At least one blank, a note's token, and blanks. -/
def IsNote (text : List Char) : Prop :=
  ∃ gap token tail, text = gap ++ (token ++ tail) ∧ gap ≠ [] ∧ Blanks gap ∧
    Matches noteToken token ∧ Blanks tail

/-- What one step of a cleaning takes off: a note, a comma, or a page language in
brackets. -/
def IsNoise (text : List Char) : Prop :=
  IsNote text ∨ text = [','] ∨ text = ['(', 'P', 'S', ')']

/-- No end of the text is noise. -/
def IsClean (text : List Char) : Prop :=
  ∀ piece, piece <:+ text → ¬ IsNoise piece

/-- A text loses noise at its end, piece by piece, until its front is left. -/
structure Sheds (text : List Char) (pieces : List (List Char)) (front : List Char) : Prop where
  whole : text = front ++ pieces.flatten
  noise : ∀ piece ∈ pieces, IsNoise piece
  /-- Blanks right before a note go with it. -/
  solid : ∀ piece ∈ pieces.head?, IsNote piece → ∀ c ∈ front.getLast?, isBlank c = false

theorem noteToken_opens : noteToken.OpensIn fun c => !isBlank c := by
  simp [noteToken, OpensIn, anyOf, inRow, maybe, literal, acceptsEmpty, not_isBlank_of_visible]

theorem noteToken_closes : noteToken.reverse.OpensIn fun c => !isBlank c := by
  have decimal (c : Char) : isDecimalDigit c = true → isBlank c = false :=
    not_isBlank_of_isDecimalDigit
  have dotted (c : Char) (inside : c.isDigit = true ∨ c = '.') : isBlank c = false := by
    obtain digit | rfl := inside
    · exact decimal c (isDecimalDigit_of_isDigit digit)
    · rfl
  simpa [noteToken, Pattern.reverse, OpensIn, anyOf, inRow, maybe, literal, run, blanks, solid,
    decimals, Ppd.dotted, dotsAndDigits, acceptsEmpty, not_isBlank_of_visible] using
    ⟨dotted, decimal, dotted, decimal⟩

/-- No token of a note has a blank at its ends. -/
theorem trim_of_noteToken {token : List Char} (matched : Matches noteToken token) :
    trim token = token := by
  obtain ⟨first, last⟩ := noteToken_opens.ends noteToken_closes matched
  refine trim_eq_self_iff.mpr ⟨fun c member => ?_, fun c member => ?_⟩
  · simpa using first c member
  · simpa using last c member

theorem isNote_iff : isNote text = true ↔ IsNote text := by
  constructor
  · intro note
    cases text with
    | nil => contradiction
    | cons c rest =>
        obtain ⟨blank, accepted⟩ := Bool.and_eq_true_iff.mp note
        obtain ⟨gap, tail, before, after, whole⟩ := exists_blanks_around_trim rest
        refine ⟨c :: gap, trim rest, tail, ?_, List.cons_ne_nil _ _, ?_, accepts_iff.mp accepted,
          after⟩
        · rw [List.cons_append, ← whole]
        · exact List.forall_mem_cons.mpr ⟨blank, before⟩
  · rintro ⟨gap, token, tail, rfl, some, before, matched, after⟩
    obtain ⟨c, gap, rfl⟩ := List.exists_cons_of_ne_nil some
    obtain ⟨blank, before⟩ := List.forall_mem_cons.mp before
    rw [List.cons_append, isNote, trim_surrounded (trim_of_noteToken matched) before after, blank]
    exact accepts_iff.mpr matched

/-- A blank more in front of a note makes a longer note. -/
theorem IsNote.cons (note : IsNote text) (blank : isBlank c = true) : IsNote (c :: text) := by
  obtain ⟨gap, token, tail, rfl, -, before, matched, after⟩ := note
  exact ⟨c :: gap, token, tail, rfl, List.cons_ne_nil _ _,
    List.forall_mem_cons.mpr ⟨blank, before⟩, matched, after⟩

theorem dropNote_eq_self_iff : dropNote text = text ↔ ∀ piece, piece <:+ text → ¬ IsNote piece := by
  simp only [← isNote_iff]
  induction text with
  | nil => simp [dropNote, isNote]
  | cons c rest ih =>
      simp only [dropNote, List.suffix_cons_iff, forall_eq_or_imp, ← ih]
      split
      · rename_i note
        simp [note]
      · rename_i other
        simp [other]

/-- What is taken off is the longest note, so no blank is left before it. -/
theorem exists_note_of_dropNote_ne (shorter : dropNote text ≠ text) :
    ∃ piece, text = dropNote text ++ piece ∧ IsNote piece ∧
      ∀ c ∈ (dropNote text).getLast?, isBlank c = false := by
  induction text with
  | nil => exact absurd rfl shorter
  | cons c rest ih =>
      rw [dropNote] at shorter ⊢
      split
      · rename_i note
        exact ⟨c :: rest, rfl, isNote_iff.mp note, by simp⟩
      · rename_i other
        rw [if_neg other, Ne, List.cons_inj_right] at shorter
        obtain ⟨piece, whole, note, solid⟩ := ih shorter
        refine ⟨piece, by rw [List.cons_append, ← whole], note, ?_⟩
        cases left : dropNote rest with
        | nil =>
            -- The rest is a note as a whole, and a blank before it would make it longer.
            rw [left, List.nil_append] at whole
            simp only [List.getLast?_singleton, Option.mem_some_iff, forall_eq']
            refine Bool.eq_false_iff.mpr fun blank => other (isNote_iff.mpr ?_)
            exact whole ▸ note.cons blank
        | cons first front =>
            rw [left] at solid
            simpa only [List.getLast?_cons_cons] using solid

theorem dropTail_eq (tail text : List Char) :
    tail <:+ text ∧ text = dropTail tail text ++ tail ∨
      ¬ tail <:+ text ∧ dropTail tail text = text := by
  unfold dropTail
  split
  · rename_i front found
    have turned := congrArg List.reverse (after?_eq_some_iff.mp found)
    rw [List.reverse_reverse, List.reverse_append, List.reverse_reverse] at turned
    exact .inl ⟨⟨_, turned.symm⟩, turned⟩
  · rename_i missing
    refine .inr ⟨?_, rfl⟩
    rintro ⟨front, rfl⟩
    rw [List.reverse_append, Option.eq_none_iff_forall_ne_some] at missing
    exact missing _ (after?_eq_some_iff.mpr rfl)

theorem dropTail_eq_self_iff {tail : List Char} (some : tail ≠ []) :
    dropTail tail text = text ↔ ¬ tail <:+ text := by
  obtain ⟨ends, whole⟩ | ⟨other, same⟩ := dropTail_eq tail text
  · refine iff_of_false (fun same => some ?_) (not_not_intro ends)
    rw [same] at whole
    exact List.self_eq_append_right.mp whole
  · exact iff_of_true same other

theorem Sheds.refl (text : List Char) : Sheds text [] text :=
  ⟨(List.append_nil text).symm, by simp, by simp⟩

theorem Sheds.trans (late : Sheds middle pieces front) (early : Sheds text others middle) :
    Sheds text (pieces ++ others) front where
  whole := by
    rw [early.whole, late.whole, List.flatten_append, List.append_assoc]
  noise := List.forall_mem_append.mpr ⟨late.noise, early.noise⟩
  solid := by
    cases pieces with
    | nil =>
        have same := late.whole
        rw [List.flatten_nil, List.append_nil] at same
        exact same ▸ early.solid
    | cons piece pieces => exact late.solid

theorem sheds_dropNote (text : List Char) : ∃ pieces, Sheds text pieces (dropNote text) := by
  by_cases same : dropNote text = text
  · exact ⟨[], by simpa [same] using Sheds.refl text⟩
  · obtain ⟨piece, whole, note, solid⟩ := exists_note_of_dropNote_ne same
    exact ⟨[piece], by simpa using whole, by simpa using .inl note, fun _ _ _ => solid⟩

theorem not_isNote_of_solid {tail : List Char} (solid : ∀ c ∈ tail.head?, isBlank c = false) :
    ¬ IsNote tail := by
  rintro ⟨gap, rest, tail, rfl, some, blanks, -, -⟩
  obtain ⟨c, gap, rfl⟩ := List.exists_cons_of_ne_nil some
  exact absurd (blanks c List.mem_cons_self) (by simp [solid c rfl])

theorem sheds_dropTail {tail : List Char} (noise : IsNoise tail)
    (solid : ∀ c ∈ tail.head?, isBlank c = false) (text : List Char) :
    ∃ pieces, Sheds text pieces (dropTail tail text) := by
  obtain ⟨-, whole⟩ | ⟨-, same⟩ := dropTail_eq tail text
  · refine ⟨[tail], by simpa using whole, by simpa using noise, ?_⟩
    intro piece first note
    obtain rfl := Option.some.inj first
    exact absurd note (not_isNote_of_solid solid)
  · exact ⟨[], by simpa [same] using Sheds.refl text⟩

theorem sheds_cleanOnce (text : List Char) : ∃ pieces, Sheds text pieces (cleanOnce text) := by
  obtain ⟨notes, first⟩ := sheds_dropNote text
  obtain ⟨commas, second⟩ := sheds_dropTail (.inr (.inl rfl))
    (by simp [not_isBlank_of_visible]) (dropNote text)
  obtain ⟨languages, third⟩ := sheds_dropTail (.inr (.inr rfl))
    (by simp [not_isBlank_of_visible]) (dropTail [','] (dropNote text))
  exact ⟨_, third.trans (second.trans first)⟩

theorem Sheds.isPrefix (sheds : Sheds text pieces front) : front <+: text :=
  ⟨_, sheds.whole.symm⟩

theorem dropTail_isPrefix (tail text : List Char) : dropTail tail text <+: text := by
  obtain ⟨-, whole⟩ | ⟨-, same⟩ := dropTail_eq tail text
  · exact ⟨tail, whole.symm⟩
  · exact ⟨[], by rw [List.append_nil, same]⟩

theorem dropNote_isPrefix (text : List Char) : dropNote text <+: text := by
  obtain ⟨_, sheds⟩ := sheds_dropNote text
  exact sheds.isPrefix

theorem cleanOnce_isPrefix (text : List Char) : cleanOnce text <+: text :=
  (dropTail_isPrefix _ _).trans ((dropTail_isPrefix _ _).trans (dropNote_isPrefix text))

/-- A round that leaves the text as it is took nothing off in any of its steps. -/
theorem cleanOnce_eq_self_iff : cleanOnce text = text ↔ dropNote text = text ∧
    dropTail [','] text = text ∧ dropTail ['(', 'P', 'S', ')'] text = text := by
  constructor
  · intro same
    have language := dropTail_isPrefix ['(', 'P', 'S', ')'] (dropTail [','] (dropNote text))
    rw [← cleanOnce, same] at language
    have comma := dropTail_isPrefix [','] (dropNote text)
    have note : dropNote text = text :=
      (dropNote_isPrefix text).eq_of_length_le (language.trans comma).length_le
    rw [note] at language comma
    have comma : dropTail [','] text = text := comma.eq_of_length_le language.length_le
    refine ⟨note, comma, ?_⟩
    rwa [cleanOnce, note, comma] at same
  · rintro ⟨note, comma, language⟩
    rw [cleanOnce, note, comma, language]

theorem isClean_iff : IsClean text ↔ cleanOnce text = text := by
  rw [cleanOnce_eq_self_iff, dropNote_eq_self_iff, dropTail_eq_self_iff (by decide),
    dropTail_eq_self_iff (by decide)]
  constructor
  · intro clean
    exact ⟨fun piece ends note => clean piece ends (.inl note),
      fun ends => clean _ ends (.inr (.inl rfl)), fun ends => clean _ ends (.inr (.inr rfl))⟩
  · rintro ⟨notes, comma, language⟩ piece ends (note | rfl | rfl)
    · exact notes piece ends note
    · exact comma ends
    · exact language ends

theorem sheds_cleanName (text : List Char) : ∃ pieces, Sheds text pieces (cleanName text) := by
  fun_induction cleanName text with
  | case1 text _ ih =>
      obtain ⟨_, late⟩ := ih
      obtain ⟨_, early⟩ := sheds_cleanOnce text
      exact ⟨_, late.trans early⟩
  | case2 text => exact ⟨[], .refl text⟩

theorem cleanOnce_of_not_shorter (same : ¬ (cleanOnce text).length < text.length) :
    cleanOnce text = text :=
  (cleanOnce_isPrefix text).eq_of_length_le (Nat.not_lt.mp same)

theorem isClean_cleanName (text : List Char) : IsClean (cleanName text) := by
  fun_induction cleanName text with
  | case1 _ _ ih => exact ih
  | case2 text same => exact isClean_iff.mpr (cleanOnce_of_not_shorter same)

theorem cleanName_of_isClean (clean : IsClean text) : cleanName text = text := by
  rw [cleanName, isClean_iff.mp clean, if_neg (Nat.lt_irrefl _)]

/-- The rounds end, after no more of them than the text has characters.  Until then
each one shortens the text. -/
theorem exists_rounds (text : List Char) : ∃ rounds ≤ text.length,
    cleanName text = cleanOnce^[rounds] text ∧
      ∀ earlier < rounds, cleanOnce^[earlier + 1] text ≠ cleanOnce^[earlier] text := by
  fun_induction cleanName text with
  | case1 text shorter ih =>
      obtain ⟨rounds, bound, reached, changes⟩ := ih
      refine ⟨rounds + 1, by omega, reached, fun earlier before => ?_⟩
      cases earlier with
      | zero =>
          intro same
          rw [Function.iterate_one, Function.iterate_zero, id] at same
          exact absurd shorter (by simp [same])
      | succ earlier => exact changes earlier (by omega)
  | case2 text => exact ⟨0, Nat.zero_le _, rfl, by simp⟩

/-- Cleaning ends, at the first round that changes nothing.  What is left is the front
of the name, all that was taken off is noise, no noise is left at the end, and cleaning
again changes nothing. -/
theorem cleanModel_settles (model : String) :
    (∃ rounds ≤ model.toList.length, (cleanModel model).toList = cleanOnce^[rounds] model.toList ∧
      cleanOnce^[rounds + 1] model.toList = cleanOnce^[rounds] model.toList ∧
      ∀ earlier < rounds,
        cleanOnce^[earlier + 1] model.toList ≠ cleanOnce^[earlier] model.toList) ∧
    (cleanModel model).toList <+: model.toList ∧
    (∃ pieces : List (List Char), model.toList = (cleanModel model).toList ++ pieces.flatten ∧
      ∀ piece ∈ pieces, IsNoise piece) ∧
    IsClean (cleanModel model).toList ∧
    cleanModel (cleanModel model) = cleanModel model := by
  have clean := isClean_cleanName model.toList
  obtain ⟨rounds, bound, reached, changes⟩ := exists_rounds model.toList
  obtain ⟨pieces, sheds⟩ := sheds_cleanName model.toList
  rw [cleanModel, cleanModel, String.toList_ofList, cleanName_of_isClean clean]
  refine ⟨⟨rounds, bound, reached, ?_, changes⟩, sheds.isPrefix, ⟨pieces, sheds.whole, sheds.noise⟩,
    clean, rfl⟩
  rw [Function.iterate_succ_apply', ← reached]
  exact isClean_iff.mp clean

example : cleanModel "LaserJet 4250 PS v3010.107 cups-team Letter+Duplex" = "LaserJet 4250" := by
  decide +kernel

end PrintConnector.Ppd
