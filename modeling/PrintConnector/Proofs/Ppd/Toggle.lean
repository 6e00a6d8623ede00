import PrintConnector.Proofs.Ppd.ColorModes
import PrintConnector.Proofs.Text.Blank

namespace PrintConnector.Ppd

open PrintConnector.Text

variable {name keyword : String} {word text back gap rest : List Char}

/-- `on` or `off`, in any case of letters. -/
def IsSwitch (word : List Char) : Prop :=
  word.map fold = ['o', 'n'] ∨ word.map fold = ['o', 'f', 'f']

instance (word : List Char) : Decidable (IsSwitch word) :=
  inferInstanceAs (Decidable (_ ∨ _))

/-- A name starts with a switch that stands alone: the name ends there, or a blank or a
dash is next. -/
def StartsWithSwitch (name : String) : Prop :=
  ∃ word back, name.toList = word ++ back ∧ IsSwitch word ∧
    ∀ c ∈ back.head?, isBlank c = true ∨ c = '-'

/-- All blanks before a text, or all around the first dash before it. -/
def IsGap (gap rest : List Char) : Prop :=
  (Blanks gap ∧ ∀ c ∈ rest.head?, isBlank c = false ∧ c ≠ '-') ∨
    ∃ before after, gap = before ++ '-' :: after ∧ Blanks before ∧ Blanks after ∧
      ∀ c ∈ rest.head?, isBlank c = false

/-- A label, and what is left of a name behind it. -/
def labelled (label rest : String) : String :=
  if rest = "" then label else label ++ ", " ++ rest

/-- What is left of a name is shown behind the colour that it or the keyword tells. -/
structure IsLabelled (keyword rest shown : String) : Prop where
  gray : LooksGray keyword ∨ LooksGray rest → shown = labelled "Gray" rest
  color : ¬ (LooksGray keyword ∨ LooksGray rest) → LooksColor keyword ∨ LooksColor rest →
    shown = labelled "Color" rest
  neither : ¬ (LooksGray keyword ∨ LooksGray rest) → ¬ (LooksColor keyword ∨ LooksColor rest) →
    shown = rest

theorem afterFolded?_eq_some_iff :
    afterFolded? word text = some rest ↔ ∃ front, text = front ++ rest ∧ front.map fold = word := by
  induction word generalizing text with
  | nil =>
      simp [afterFolded?]
  | cons w word ih =>
      cases text with
      | nil => simp [afterFolded?]
      | cons c text =>
          rw [afterFolded?]
          constructor
          · intro found
            split at found
            · rename_i same
              obtain ⟨front, rfl, folded⟩ := ih.mp found
              exact ⟨c :: front, rfl, by rw [List.map_cons, same, folded]⟩
            · contradiction
          · rintro ⟨front, whole, folded⟩
            obtain ⟨first, front, rfl, same, tail⟩ := List.map_eq_cons_iff.mp folded
            obtain ⟨rfl, rfl⟩ := List.cons.inj whole
            rw [if_pos same]
            exact ih.mpr ⟨front, rfl, tail⟩

/-- No text starts with both switches. -/
theorem switch_iff : ((afterFolded? ['o', 'n'] text).orElse fun _ =>
    afterFolded? ['o', 'f', 'f'] text) = some back ↔
      ∃ word, text = word ++ back ∧ IsSwitch word := by
  cases on : afterFolded? ['o', 'n'] text with
  | some rest =>
      obtain ⟨front, whole, folded⟩ := afterFolded?_eq_some_iff.mp on
      constructor
      · intro found
        obtain rfl := Option.some.inj found
        exact ⟨front, whole, .inl folded⟩
      · rintro ⟨word, other, switch | switch⟩
        · exact on.symm.trans (afterFolded?_eq_some_iff.mpr ⟨word, other, switch⟩)
        · have same := congrArg (List.map fold) (whole.symm.trans other)
          rw [List.map_append, List.map_append, folded, switch] at same
          simp at same
  | none =>
      rw [Option.orElse_none, afterFolded?_eq_some_iff]
      constructor
      · rintro ⟨word, whole, switch⟩
        exact ⟨word, whole, .inr switch⟩
      · rintro ⟨word, whole, switch | switch⟩
        · rw [afterFolded?_eq_some_iff.mpr ⟨word, whole, switch⟩] at on
          contradiction
        · exact ⟨word, whole, switch⟩

/-- A dash at the head of a text is taken off, with the blanks on both of its sides. -/
theorem exists_gap (back : List Char) : ∃ gap rest, back = gap ++ rest ∧ IsGap gap rest ∧
    (match trimStart back with
      | '-' :: after => some (trimStart after)
      | after => some after) = some rest := by
  obtain ⟨before, blanks, whole⟩ := exists_blanks_before_trimStart back
  have solid (c : Char) := head?_trimStart back (c := c)
  generalize trimStart back = start at whole solid
  split
  · rename_i after
    obtain ⟨behind, more, split⟩ := exists_blanks_before_trimStart after
    refine ⟨before ++ '-' :: behind, trimStart after, ?_,
      .inr ⟨before, behind, rfl, blanks, more, fun _ => head?_trimStart after⟩, rfl⟩
    rw [whole, List.append_assoc, List.cons_append, ← split]
  · rename_i other
    refine ⟨before, start, whole, .inl ⟨blanks, fun c first => ⟨solid c first, ?_⟩⟩, rfl⟩
    rintro rfl
    obtain ⟨after, split⟩ := List.head?_eq_some_iff.mp first
    exact other after split

theorem afterToggle?_switch (switch : IsSwitch word) (back : List Char) :
    ∃ gap rest, back = gap ++ rest ∧ IsGap gap rest ∧ afterToggle? (word ++ back) = some rest := by
  obtain ⟨gap, rest, whole, isGap, found⟩ := exists_gap back
  refine ⟨gap, rest, whole, isGap, ?_⟩
  rw [afterToggle?, switch_iff.mpr ⟨word, rfl, switch⟩]
  exact found

theorem afterToggle?_eq_none (other : ∀ word, word <+: text → ¬ IsSwitch word) :
    afterToggle? text = none := by
  have none : ((afterFolded? ['o', 'n'] text).orElse fun _ =>
      afterFolded? ['o', 'f', 'f'] text) = none := by
    refine Option.eq_none_iff_forall_ne_some.mpr fun back found => ?_
    obtain ⟨word, whole, switch⟩ := switch_iff.mp found
    exact other word ⟨back, whole.symm⟩ switch
  rw [afterToggle?, none]
  rfl

theorem colorName_of_toggle {rest : String}
    (switched : afterToggle? name.toList = some rest.toList) :
    IsLabelled keyword rest (colorName keyword name) := by
  have empty : rest.toList.isEmpty = true ↔ rest = "" := by
    rw [List.isEmpty_iff, ← String.toList_inj, String.toList_empty]
  simp only [colorName, switched, Bool.or_eq_true, looksGray_iff, looksColor_iff, empty,
    String.ofList_toList]
  constructor
  · intro gray
    rw [if_pos gray]
    rfl
  · intro plain color
    rw [if_neg plain, if_pos color]
    rfl
  · intro plain colorless
    rw [if_neg plain, if_neg colorless]

/-- A name that starts with no switch is shown as it is.  From any other the switch is
taken off with the gap behind it, and the colour is put in its place.  Whether the switch
is a word of its own makes no difference. -/
theorem colorName_switched (keyword name : String) :
    ((∀ word, word <+: name.toList → ¬ IsSwitch word) → colorName keyword name = name) ∧
      ∀ word back, name.toList = word ++ back → IsSwitch word →
        ∃ gap rest, back = gap ++ String.toList rest ∧ IsGap gap rest.toList ∧
          IsLabelled keyword rest (colorName keyword name) := by
  constructor
  · intro other
    rw [colorName, afterToggle?_eq_none other]
  · intro word back whole switch
    obtain ⟨gap, rest, split, isGap, switched⟩ := afterToggle?_switch switch back
    have same : (String.ofList rest).toList = rest := String.toList_ofList
    rw [← whole, ← same] at switched
    rw [← same] at split isGap
    exact ⟨gap, .ofList rest, split, isGap, colorName_of_toggle switched⟩

theorem proRes_switched :
    ((∀ word, word <+: "Color".toList → ¬ IsSwitch word) ∧ colorName "CMYK" "Color" = "Color") ∧
      "oFF - ProRes 1200".toList = "oFF".toList ++ " - ProRes 1200".toList ∧
      IsSwitch "oFF".toList ∧ ∃ gap rest, " - ProRes 1200".toList = gap ++ String.toList rest ∧
        IsGap gap rest.toList ∧ IsLabelled "CMYK" rest (colorName "CMYK" "oFF - ProRes 1200") := by
  have plain : ∀ word, word <+: "Color".toList → ¬ IsSwitch word := by
    rintro word ⟨back, whole⟩ switch
    have found : none = some back := switch_iff.mpr ⟨word, whole.symm, switch⟩
    contradiction
  have whole : "oFF - ProRes 1200".toList = "oFF".toList ++ " - ProRes 1200".toList := by decide
  have switch : IsSwitch "oFF".toList := by decide
  exact ⟨⟨plain, (colorName_switched "CMYK" "Color").1 plain⟩, whole, switch,
    (colorName_switched "CMYK" "oFF - ProRes 1200").2 _ _ whole switch⟩

/-- A word that only has the letters of a switch at its head is cut. -/
theorem office_cut : ¬ StartsWithSwitch "Office" ∧ colorName "Draft" "Office" = "ice" := by
  refine ⟨?_, by decide⟩
  rintro ⟨word, back, whole, switch, alone⟩
  have found := switch_iff.mpr ⟨word, whole, switch⟩
  obtain rfl : ['i', 'c', 'e'] = back := Option.some.inj found
  exact absurd (alone 'i' rfl) (by decide)

end PrintConnector.Ppd
