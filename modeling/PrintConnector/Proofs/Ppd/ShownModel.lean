import PrintConnector.Proofs.Ppd.Dimension
import PrintConnector.Proofs.Ppd.ModelName
import PrintConnector.Proofs.Ppd.Outline

namespace PrintConnector.Ppd

open PrintConnector.Text

variable {statements : List Statement} {statement : Statement}

/-- The name stands in a text right before a comma or a page language in brackets, and
there is only noise behind that. -/
def IsExposed (name text : List Char) : Prop :=
  ∃ front mark pieces, text = front ++ (name ++ (mark ++ List.flatten pieces)) ∧
    (mark = [','] ∨ mark = ['(', 'P', 'S', ')']) ∧ ∀ piece ∈ pieces, IsNoise piece

theorem mem_of_lastWith? {keyword : String} (last : lastWith? keyword statements = some statement) :
    statement ∈ statements :=
  List.mem_of_mem_filter (List.mem_of_getLast? last)

theorem standaloneOf_subset (text : String) : standaloneOf text ⊆ Statement.parseAll text := by
  have filed := (Outline.Cursor.reflects_foldl (Statement.parseAll text)).standalone
  change standaloneOf text = _ at filed
  rw [filed]
  exact Outline.residents_subset ..

/-- Without its manufacturer in front a name is an end of itself, and no space is in
front of it. -/
theorem withoutManufacturer_eq (model manufacturer : String) :
    (withoutManufacturer model manufacturer).toList <:+ model.toList ∧
      (withoutManufacturer model manufacturer).toList.head? ≠ some ' ' := by
  rw [withoutManufacturer, String.toList_ofList]
  constructor
  · refine (List.dropWhile_suffix _).trans ?_
    cases found : after? manufacturer.toList model.toList with
    | none => exact List.suffix_rfl
    | some rest => exact ⟨_, (after?_eq_some_iff.mp found).symm⟩
  · intro first
    have none := List.head?_dropWhile_not (· = ' ')
      ((after? manufacturer.toList model.toList).getD model.toList)
    rw [first] at none
    exact absurd none (by decide)

theorem model_withShownNames (translation : Translation) :
    translation.withShownNames.model.toList <:+ translation.model.toList ∧
      translation.withShownNames.model.toList.head? ≠ some ' ' := by
  have written := withoutManufacturer_eq translation.model translation.manufacturer
  rw [Translation.withShownNames]
  dsimp only
  split
  · exact written
  · obtain ⟨ends, first⟩ := withoutManufacturer_eq
      (withoutManufacturer translation.model translation.manufacturer)
      (shownManufacturer translation.manufacturer)
    exact ⟨ends.trans written.1, first⟩

theorem model_standalone (translation : Translation) (statements : List Statement) :
    (statements.foldl Translation.withStandalone translation).model =
      ((lastWith? "NickName" statements).map fun statement =>
        cleanModel statement.value).getD translation.model := by
  rw [foldl_withStandalone, lastWith?_eq_find?]
  rfl

/-- What is shown is the end of the cleaned nickname. -/
theorem model_ofText (text : String) :
    (Translation.ofText text).model.toList <:+
        (((lastWith? "NickName" (standaloneOf text)).map fun statement =>
          cleanModel statement.value).getD "").toList ∧
      (Translation.ofText text).model.toList.head? ≠ some ' ' := by
  have shown := model_withShownNames ((standaloneOf text).foldl Translation.withStandalone
    ⟨(Controls.ofBlocks (blocksOf text)).printer, "", ""⟩)
  rw [model_standalone] at shown
  exact shown

/-- A cleaned name that ends in a blank where the text does not is exposed. -/
theorem isExposed_of_cleanName {text name : List Char} {c : Char} (trimmed : trim text = text)
    (ends : name <:+ cleanName text) (last : c ∈ name.getLast?) (blank : isBlank c = true) :
    IsExposed name text := by
  obtain ⟨front, cleaned⟩ := ends
  obtain ⟨pieces, sheds⟩ := sheds_cleanName text
  have last : c ∈ (cleanName text).getLast? := by
    rw [← cleaned, List.getLast?_append, Option.mem_def.mp last]
    rfl
  cases pieces with
  | nil =>
      have whole := sheds.whole
      rw [List.flatten_nil, List.append_nil] at whole
      rw [← whole] at last
      exact absurd ((trim_eq_self_iff.mp trimmed).2 c last) (by simp [blank])
  | cons mark pieces =>
      obtain ⟨noise, others⟩ := List.forall_mem_cons.mp sheds.noise
      refine ⟨front, mark, pieces, ?_, ?_, others⟩
      · rw [← List.append_assoc, cleaned, ← List.flatten_cons]
        exact sheds.whole
      · refine noise.resolve_left fun note => ?_
        exact absurd (sheds.solid mark rfl note c last) (by simp [blank])

/-- No space is in front of a model's name.  A blank is behind it only where the nickname
has that blank right before a comma or a page language in brackets, with nothing but
noise after that. -/
theorem ofText_exposed (text : String) :
    (Translation.ofText text).model.toList.head? ≠ some ' ' ∧
      ∀ c ∈ (Translation.ofText text).model.toList.getLast?, isBlank c = true →
        ∃ nickname, lastWith? "NickName" (standaloneOf text) = some nickname ∧
          IsExposed (Translation.ofText text).model.toList nickname.value.toList := by
  obtain ⟨ends, first⟩ := model_ofText text
  refine ⟨first, fun c last blank => ?_⟩
  cases found : lastWith? "NickName" (standaloneOf text) with
  | none =>
      rw [found] at ends
      rw [List.suffix_nil.mp ends] at last
      exact nomatch last
  | some nickname =>
      rw [found, Option.map_some, Option.getD_some, cleanModel, String.toList_ofList] at ends
      have trimmed := Statement.trim_value (standaloneOf_subset text (mem_of_lastWith? found))
      exact ⟨nickname, rfl, isExposed_of_cleanName trimmed ends last blank⟩

/-- A page language in brackets behind a space. -/
def bracketedLanguage : String :=
  "*Manufacturer: \"HP\"\n*NickName: \"HP LaserJet 4250 (PS)\"\n"

theorem bracketedLanguage_exposed :
    ' ' ∈ (Translation.ofText bracketedLanguage).model.toList.getLast? ∧ isBlank ' ' = true ∧
      ∃ nickname, lastWith? "NickName" (standaloneOf bracketedLanguage) = some nickname ∧
        IsExposed (Translation.ofText bracketedLanguage).model.toList nickname.value.toList := by
  have last : ' ' ∈ (Translation.ofText bracketedLanguage).model.toList.getLast? := by
    decide +kernel
  exact ⟨last, rfl, (ofText_exposed bracketedLanguage).2 ' ' last rfl⟩

/-- The space stays. -/
theorem bracketedLanguage_spaced :
    (Translation.ofText bracketedLanguage).model = "LaserJet 4250 " := by
  decide +kernel

end PrintConnector.Ppd
