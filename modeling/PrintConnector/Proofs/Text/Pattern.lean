import PrintConnector.Text.Pattern

namespace PrintConnector.Text.Pattern

variable {pattern first second item : Pattern} {text : List Char} {c : Char}
  {kind : Char → Bool}

theorem not_matches_never : ¬ Matches .never text := nofun

theorem matches_nothing_iff : Matches .nothing text ↔ text = [] := by
  constructor
  · intro matched
    cases matched
    rfl
  · rintro rfl
    exact .nothing

theorem matches_one_iff : Matches (.one kind) text ↔ ∃ c, text = [c] ∧ kind c = true := by
  constructor
  · intro matched
    cases matched with
    | one accepted => exact ⟨_, rfl, accepted⟩
  · rintro ⟨c, rfl, accepted⟩
    exact .one accepted

theorem matches_seq_iff : Matches (.seq first second) text ↔
    ∃ front back, text = front ++ back ∧ Matches first front ∧ Matches second back := by
  constructor
  · intro matched
    cases matched with
    | seq left right => exact ⟨_, _, rfl, left, right⟩
  · rintro ⟨front, back, rfl, left, right⟩
    exact .seq left right

theorem matches_choice_iff : Matches (.choice first second) text ↔
    Matches first text ∨ Matches second text := by
  constructor
  · intro matched
    cases matched with
    | choiceLeft matched => exact .inl matched
    | choiceRight matched => exact .inr matched
  · rintro (matched | matched)
    · exact .choiceLeft matched
    · exact .choiceRight matched

/-- The first item of a repetition that is not empty is not empty either. -/
theorem matches_star_cons_iff : Matches (.star item) (c :: text) ↔
    ∃ front back, text = front ++ back ∧ Matches item (c :: front) ∧
      Matches (.star item) back := by
  constructor
  · generalize whole : c :: text = all, repeated : Pattern.star item = pattern
    intro matched
    induction matched with
    | starNil => contradiction
    | @starCons _ front back first rest _ ih =>
        cases repeated
        cases front with
        | nil => exact ih whole rfl
        | cons head front =>
            obtain ⟨rfl, rfl⟩ := List.cons.inj whole
            exact ⟨front, back, rfl, first, rest⟩
    | _ => contradiction
  · rintro ⟨front, back, rfl, first, rest⟩
    exact .starCons first rest

theorem acceptsEmpty_iff : pattern.acceptsEmpty = true ↔ Matches pattern [] := by
  induction pattern with
  | never => simp [acceptsEmpty, not_matches_never]
  | nothing => simp [acceptsEmpty, matches_nothing_iff]
  | one => simp [acceptsEmpty, matches_one_iff]
  | seq first second left right =>
      rw [acceptsEmpty, Bool.and_eq_true, left, right, matches_seq_iff]
      constructor
      · rintro ⟨left, right⟩
        exact ⟨[], [], rfl, left, right⟩
      · rintro ⟨front, back, empty, left, right⟩
        obtain ⟨rfl, rfl⟩ := List.nil_eq_append_iff.mp empty
        exact ⟨left, right⟩
  | choice first second left right => simp [acceptsEmpty, matches_choice_iff, left, right]
  | star => exact ⟨fun _ => .starNil, fun _ => rfl⟩

theorem matches_andThen_iff :
    Matches (first.andThen second) text ↔ Matches (.seq first second) text := by
  unfold andThen
  split
  · simp [matches_seq_iff, not_matches_never]
  · rw [matches_seq_iff]
    constructor
    · intro matched
      exact ⟨[], text, rfl, .nothing, matched⟩
    · rintro ⟨front, back, rfl, empty, matched⟩
      obtain rfl := matches_nothing_iff.mp empty
      exact matched
  · simp [matches_seq_iff, not_matches_never]
  · rfl

theorem matches_orElse_iff :
    Matches (first.orElse second) text ↔ Matches (.choice first second) text := by
  unfold orElse
  split <;> simp [matches_choice_iff, not_matches_never]

theorem matches_seq_cons_iff : Matches (.seq first second) (c :: text) ↔
    (∃ front back, text = front ++ back ∧ Matches first (c :: front) ∧ Matches second back) ∨
      Matches first [] ∧ Matches second (c :: text) := by
  rw [matches_seq_iff]
  constructor
  · rintro ⟨front, back, whole, left, right⟩
    cases front with
    | nil =>
        rw [List.nil_append] at whole
        exact .inr ⟨left, whole ▸ right⟩
    | cons head front =>
        obtain ⟨rfl, rfl⟩ := List.cons.inj whole
        exact .inl ⟨front, back, rfl, left, right⟩
  · rintro (⟨front, back, rfl, left, right⟩ | ⟨left, right⟩)
    · exact ⟨c :: front, back, rfl, left, right⟩
    · exact ⟨[], c :: text, rfl, left, right⟩

theorem matches_after_iff : Matches (pattern.after c) text ↔ Matches pattern (c :: text) := by
  induction pattern generalizing text with
  | never => simp [after, not_matches_never]
  | nothing => simp [after, not_matches_never, matches_nothing_iff]
  | one kind =>
      unfold after
      split
      · rename_i accepted
        rw [matches_nothing_iff, matches_one_iff]
        constructor
        · rintro rfl
          exact ⟨c, rfl, accepted⟩
        · rintro ⟨_, same, -⟩
          exact (List.cons.inj same).2
      · rename_i refused
        simp [not_matches_never, matches_one_iff, refused]
  | seq first second left right =>
      rw [matches_seq_cons_iff, ← acceptsEmpty_iff, after]
      split
      · rename_i empty
        simp [matches_orElse_iff, matches_choice_iff, matches_andThen_iff, matches_seq_iff, left,
          right, empty]
      · rename_i solid
        simp [matches_andThen_iff, matches_seq_iff, left, solid]
  | choice first second left right =>
      rw [after, matches_orElse_iff, matches_choice_iff, matches_choice_iff, left, right]
  | star item ih =>
      rw [after, matches_andThen_iff, matches_seq_iff, matches_star_cons_iff]
      simp only [ih]

/-- A pattern accepts exactly its texts. -/
theorem accepts_iff : pattern.accepts text = true ↔ Matches pattern text := by
  induction text generalizing pattern with
  | nil => exact acceptsEmpty_iff
  | cons c rest ih =>
      rw [← matches_after_iff, ← ih]
      rfl

/-- A text of the pattern can only start with a character of a kind. -/
def OpensIn (kind : Char → Bool) : Pattern → Prop
  | .never => True
  | .nothing => True
  | .one accepts => ∀ c, accepts c = true → kind c = true
  | .seq first second =>
      first.OpensIn kind ∧ (first.acceptsEmpty = true → second.OpensIn kind)
  | .choice left right => left.OpensIn kind ∧ right.OpensIn kind
  | .star item => item.OpensIn kind

/-- The pattern of the texts read from their ends. -/
def reverse : Pattern → Pattern
  | .seq first second => .seq second.reverse first.reverse
  | .choice left right => .choice left.reverse right.reverse
  | .star item => .star item.reverse
  | pattern => pattern

theorem OpensIn.head (opens : pattern.OpensIn kind) (matched : Matches pattern (c :: text)) :
    kind c = true := by
  induction pattern generalizing text with
  | never => exact absurd matched not_matches_never
  | nothing => exact nomatch matched
  | one accepts =>
      obtain ⟨_, same, accepted⟩ := matches_one_iff.mp matched
      obtain ⟨rfl, -⟩ := List.cons.inj same
      exact opens c accepted
  | seq first second left right =>
      obtain ⟨_, _, -, inFirst, -⟩ | ⟨empty, inSecond⟩ := matches_seq_cons_iff.mp matched
      · exact left opens.1 inFirst
      · exact right (opens.2 (acceptsEmpty_iff.mpr empty)) inSecond
  | choice first second left right =>
      obtain inFirst | inSecond := matches_choice_iff.mp matched
      · exact left opens.1 inFirst
      · exact right opens.2 inSecond
  | star item ih =>
      obtain ⟨_, _, -, inItem, -⟩ := matches_star_cons_iff.mp matched
      exact ih opens inItem

theorem Matches.star_append {front back : List Char} (left : Matches (.star item) front)
    (right : Matches (.star item) back) : Matches (.star item) (front ++ back) := by
  generalize repeated : Pattern.star item = pattern at left
  induction left with
  | starNil =>
      cases repeated
      exact right
  | starCons first rest _ ih =>
      cases repeated
      rw [List.append_assoc]
      exact .starCons first (ih rfl)
  | _ => contradiction

theorem Matches.reverse (matched : Matches pattern text) :
    Matches pattern.reverse text.reverse := by
  induction matched with
  | nothing => exact .nothing
  | one accepted => exact .one accepted
  | seq _ _ left right =>
      rw [List.reverse_append]
      exact .seq right left
  | choiceLeft _ ih => exact .choiceLeft ih
  | choiceRight _ ih => exact .choiceRight ih
  | starNil => exact .starNil
  | @starCons _ front back _ _ first rest =>
      have last := Matches.starCons first .starNil
      rw [List.append_nil] at last
      rw [List.reverse_append]
      exact .star_append rest last

/-- A kind of character that the texts of a pattern open in from both sides is at both
of their ends. -/
theorem OpensIn.ends (opens : pattern.OpensIn kind) (closes : pattern.reverse.OpensIn kind)
    (matched : Matches pattern text) :
    (∀ c ∈ text.head?, kind c = true) ∧ ∀ c ∈ text.getLast?, kind c = true := by
  constructor
  · intro c first
    obtain ⟨rest, rfl⟩ := List.head?_eq_some_iff.mp first
    exact opens.head matched
  · intro c last
    rw [← List.head?_reverse] at last
    obtain ⟨rest, turned⟩ := List.head?_eq_some_iff.mp last
    exact closes.head (turned ▸ matched.reverse)

end PrintConnector.Text.Pattern
