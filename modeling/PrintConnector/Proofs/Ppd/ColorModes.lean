import Mathlib.Data.List.Basic
import Mathlib.Data.List.Induction
import PrintConnector.Ppd.Section.Speed
import PrintConnector.Proofs.Ppd.Default

namespace PrintConnector.Ppd

open PrintConnector.Device PrintConnector.Number PrintConnector.Text

variable {α : Type} {part : ColorPart} {control : Control} {statements : List Statement}
  {modes : List ColorOption} {word text : List Char}

/-- A keyword starts with one of some words in lower case, in any case of letters. -/
def StartsWithOne (words : List String) (keyword : String) : Prop :=
  ∃ word ∈ words, word.toList <+: keyword.toList.map fold

instance (words : List String) (keyword : String) : Decidable (StartsWithOne words keyword) :=
  inferInstanceAs (Decidable (∃ word ∈ words, word.toList <+: keyword.toList.map fold))

def LooksColor (keyword : String) : Prop :=
  StartsWithOne ["cmy", "rgb", "color"] keyword

def LooksGray (keyword : String) : Prop :=
  StartsWithOne ["gray", "black", "mono"] keyword

instance (keyword : String) : Decidable (LooksColor keyword) :=
  inferInstanceAs (Decidable (StartsWithOne _ keyword))

instance (keyword : String) : Decidable (LooksGray keyword) :=
  inferInstanceAs (Decidable (StartsWithOne _ keyword))

/-- What the keywords of a part look like. -/
def ColorPart.Holds : ColorPart → String → Prop
  | .color, keyword => LooksColor keyword ∧ ¬ LooksGray keyword
  | .gray, keyword => LooksGray keyword
  | .other, keyword => ¬ LooksColor keyword ∧ ¬ LooksGray keyword

instance (part : ColorPart) (keyword : String) : Decidable (part.Holds keyword) :=
  match part with
  | .color => inferInstanceAs (Decidable (LooksColor keyword ∧ ¬ LooksGray keyword))
  | .gray => inferInstanceAs (Decidable (LooksGray keyword))
  | .other => inferInstanceAs (Decidable (¬ LooksColor keyword ∧ ¬ LooksGray keyword))

/-- The modes of one part, in the order of the control.  Their type depends on how many
they are. -/
structure ArePart (part : ColorPart) (single several : ColorType) (keywords : List String)
    (modes : List ColorOption) : Prop where
  keywords : modes.map ColorOption.vendorId = keywords.filter (part.Holds ·)
  types : ∀ mode ∈ modes, mode.type = if modes.length = 1 then single else several

/-- Colour modes, gray modes and the rest, in this order. -/
def AreParted (keywords : List String) (modes : List ColorOption) : Prop :=
  ∃ colors grays others, modes = colors ++ grays ++ others ∧
    ArePart .color .standardColor .customColor keywords colors ∧
    ArePart .gray .standardMonochrome .customMonochrome keywords grays ∧
    ArePart .other .customMonochrome .customMonochrome keywords others

/-- Everything among the items once, in the order of first appearance. -/
structure ListsOnce [DecidableEq α] (listed items : List α) : Prop where
  mem_iff : ∀ item, item ∈ listed ↔ item ∈ items
  nodup : listed.Nodup
  inOrder : listed.Pairwise fun earlier later => items.idxOf earlier < items.idxOf later

theorem distinct_concat [DecidableEq α] (items : List α) (item : α) :
    distinct (items ++ [item]) =
      if item ∈ distinct items then distinct items else distinct items ++ [item] := by
  rw [distinct, List.foldl_append]
  rfl

theorem mem_distinct [DecidableEq α] {items : List α} {item : α} :
    item ∈ distinct items ↔ item ∈ items := by
  induction items using List.reverseRecOn with
  | nil => exact Iff.rfl
  | append_singleton items last ih =>
      rw [distinct_concat, List.mem_append, List.mem_singleton]
      split
      · rename_i known
        rw [ih]
        refine ⟨.inl, ?_⟩
        rintro (inside | rfl)
        · exact inside
        · exact ih.mp known
      · rw [List.mem_append, List.mem_singleton, ih]

theorem pairwise_distinct [DecidableEq α] (items : List α) :
    (distinct items).Pairwise fun earlier later => items.idxOf earlier < items.idxOf later := by
  induction items using List.reverseRecOn with
  | nil => exact .nil
  | append_singleton items last ih =>
      have before : (distinct items).Pairwise fun earlier later =>
          (items ++ [last]).idxOf earlier < (items ++ [last]).idxOf later := by
        refine ih.imp_of_mem ?_
        intro earlier later first second less
        rw [List.idxOf_append_of_mem (mem_distinct.mp first),
          List.idxOf_append_of_mem (mem_distinct.mp second)]
        exact less
      rw [distinct_concat]
      split
      · exact before
      · rename_i new
        refine List.pairwise_append.mpr ⟨before, List.pairwise_singleton .., ?_⟩
        intro earlier first later second
        obtain rfl := List.mem_singleton.mp second
        have inside := mem_distinct.mp first
        rw [List.idxOf_append_of_mem inside,
          List.idxOf_append_of_notMem (mt mem_distinct.mpr new)]
        exact Nat.lt_add_right _ (List.idxOf_lt_length_of_mem inside)

theorem distinct_listsOnce [DecidableEq α] (items : List α) :
    ListsOnce (distinct items) items where
  mem_iff _ := mem_distinct
  nodup := by
    refine (pairwise_distinct items).imp ?_
    rintro item _ earlier rfl
    exact Nat.lt_irrefl _ earlier
  inOrder := pairwise_distinct items

theorem afterFolded?_isSome : (afterFolded? word text).isSome = true ↔ word <+: text.map fold := by
  induction word generalizing text with
  | nil => simp [afterFolded?]
  | cons w word ih =>
      cases text with
      | nil => simp [afterFolded?]
      | cons c text =>
          rw [afterFolded?, List.map_cons, List.cons_prefix_cons]
          split
          · rename_i same
            simpa [same] using ih
          · rename_i different
            simp [Ne.symm different]

theorem looksColor_iff {keyword : String} :
    looksColor keyword.toList = true ↔ LooksColor keyword := by
  simp [looksColor, LooksColor, StartsWithOne, startsFolded, afterFolded?_isSome, or_assoc]

theorem looksGray_iff {keyword : String} :
    looksGray keyword.toList = true ↔ LooksGray keyword := by
  simp [looksGray, LooksGray, StartsWithOne, startsFolded, afterFolded?_isSome, or_assoc]

theorem ofKeyword_eq_iff {keyword : String} :
    ColorPart.ofKeyword keyword = part ↔ part.Holds keyword := by
  simp only [ColorPart.ofKeyword, looksGray_iff, looksColor_iff]
  by_cases gray : LooksGray keyword <;> by_cases color : LooksColor keyword <;>
    cases part <;> simp [ColorPart.Holds, gray, color]

theorem map_vendorId_options (part : ColorPart) (statements : List Statement) :
    (part.options statements).map ColorOption.vendorId =
      (statements.map Statement.option).filter (part.Holds ·) := by
  simp only [ColorPart.options, List.map_map, List.filter_map]
  simp only [ofKeyword_eq_iff]
  rfl

theorem type_of_mem_options {mode : ColorOption} (member : mode ∈ part.options statements) :
    mode.type = part.type (part.options statements).length := by
  obtain ⟨statement, -, rfl⟩ := List.mem_map.mp member
  rw [ColorPart.options, List.length_map]

/-- What stays when flags are set. -/
def keyAndType (mode : ColorOption) : String × ColorType :=
  (mode.vendorId, mode.type)

/-- Modes that are those of a part but for their flags. -/
theorem arePart_of_map {single several : ColorType}
    (same : modes.map keyAndType = (part.options statements).map keyAndType)
    (types : ∀ count, part.type count = if count = 1 then single else several) :
    ArePart part single several (statements.map Statement.option) modes := by
  have length : modes.length = (part.options statements).length := by
    simpa using congrArg List.length same
  have keywords := congrArg (List.map Prod.fst) same
  rw [List.map_map, List.map_map] at keywords
  refine ⟨keywords.trans (map_vendorId_options part statements), ?_⟩
  intro mode member
  have inside : keyAndType mode ∈ (part.options statements).map keyAndType :=
    same ▸ List.mem_map_of_mem member
  obtain ⟨plain, given, alike⟩ := List.mem_map.mp inside
  rw [length, ← types, ← type_of_mem_options given]
  exact (Prod.mk.inj alike).2.symm

/-- The modes of a control before any is flagged. -/
def plainModes (statements : List Statement) : List ColorOption :=
  ColorPart.color.options statements ++ ColorPart.gray.options statements ++
    ColorPart.other.options statements

theorem areParted_of_map (same : modes.map keyAndType = (plainModes statements).map keyAndType) :
    AreParted (statements.map Statement.option) modes := by
  rw [plainModes, List.map_append, List.map_append] at same
  obtain ⟨front, others, rfl, front_eq, others_eq⟩ := List.map_eq_append_iff.mp same
  obtain ⟨colors, grays, rfl, colors_eq, grays_eq⟩ := List.map_eq_append_iff.mp front_eq
  exact ⟨colors, grays, others, rfl, arePart_of_map colors_eq fun _ => rfl,
    arePart_of_map grays_eq fun _ => rfl, arePart_of_map others_eq fun _ => (ite_self _).symm⟩

theorem count_filter_holds (part : ColorPart) (keywords : List String) (keyword : String) :
    (keywords.filter (part.Holds ·)).count keyword =
      if part.Holds keyword then keywords.count keyword else 0 := by
  split
  · rename_i holds
    exact List.count_filter (decide_eq_true holds)
  · rename_i differs
    exact List.count_eq_zero.mpr fun member =>
      differs (of_decide_eq_true (List.mem_filter.mp member).2)

/-- The parts hold all keywords, each as often as it is given. -/
theorem AreParted.perm {keywords : List String} (parted : AreParted keywords modes) :
    (modes.map ColorOption.vendorId).Perm keywords := by
  obtain ⟨colors, grays, others, rfl, color, gray, other⟩ := parted
  rw [List.map_append, List.map_append, color.keywords, gray.keywords, other.keywords,
    List.perm_iff_count]
  intro keyword
  rw [List.count_append, List.count_append, count_filter_holds, count_filter_holds,
    count_filter_holds]
  by_cases gray : LooksGray keyword <;> by_cases color : LooksColor keyword <;>
    simp [ColorPart.Holds, gray, color]

theorem color?_eq (control : Control) :
    color? control = (offer? (flagFirst control.default (plainModes control.options))).map
      fun modes => ⟨modes, control.keyword⟩ :=
  rfl

theorem map_keyAndType_of_offer {default : String}
    (offered : offer? (flagFirst default (plainModes statements)) = some modes) :
    modes.map keyAndType = (plainModes statements).map keyAndType := by
  have settled : modes.map keyAndType =
      (flagFirst default (plainModes statements)).map keyAndType :=
    map_key_of_offer offered fun _ _ => rfl
  exact settled.trans (map_flagFirst (fun _ _ => rfl) _ _)

theorem color?_eq_none_iff : color? control = none ↔ control.options = [] := by
  have parted : AreParted _ (flagFirst control.default (plainModes control.options)) :=
    areParted_of_map (map_flagFirst (fun _ _ => rfl) _ _)
  have count := parted.perm.length_eq
  rw [List.length_map, List.length_map] at count
  rw [color?_eq, Option.map_eq_none_iff, offer?, ← List.length_eq_zero_iff, ← count,
    List.length_eq_zero_iff, ← List.isEmpty_iff]
  split <;> simp [*]

/-- The modes of a control are divided into three parts in which nothing moves, and
each part has one type.  The first one with the default keyword is flagged, or the
first of all.  A speed is given for each of their types once, in the order in which
they appear. -/
theorem color?_stable (control : Control) :
    (color? control = none ↔ control.options = []) ∧
      ∀ color, color? control = some color →
        AreParted (control.options.map Statement.option) color.options ∧
        (color.options.map ColorOption.vendorId).Perm (control.options.map Statement.option) ∧
        Chooses ColorOption.vendorId control.default color.options ∧
        ∀ text speed, int32? (trim text.toList) = some speed →
          ∃ types, printingSpeed? text (some color) =
              some ⟨[⟨Single.ofInt speed, some types⟩]⟩ ∧
            ListsOnce types (color.options.map ColorOption.type) := by
  refine ⟨color?_eq_none_iff, fun color built => ?_⟩
  have chooses := (color?_offers built).2.chooses
  obtain ⟨modes, offered, rfl⟩ := Option.map_eq_some_iff.mp built
  have parted := areParted_of_map (map_keyAndType_of_offer offered)
  refine ⟨parted, parted.perm, chooses, fun text speed read => ?_⟩
  refine ⟨distinct (modes.map ColorOption.type), ?_, distinct_listsOnce _⟩
  rw [printingSpeed?, read]
  rfl

/-- A control with modes of all parts, one keyword twice and one in capitals. -/
def mixedModes : Control where
  keyword := "ColorModel"
  translation := "Colour"
  kind := .pickOne
  default := "Gray"
  options := ["Sepia", "BLACK", "RGB", "Gray", "CMYK", "Gray"].map fun keyword =>
    ⟨"ColorModel", keyword, "", ""⟩

theorem mixedModes_stable : ∃ color, color? mixedModes = some color ∧
    color.options.map ColorOption.vendorId =
      ["RGB", "CMYK", "BLACK", "Gray", "Gray", "Sepia"] ∧
    Chooses ColorOption.vendorId "Gray" color.options ∧
    int32? (trim " 12 ".toList) = some 12 ∧
    ∃ types, printingSpeed? " 12 " (some color) = some ⟨[⟨Single.ofInt 12, some types⟩]⟩ ∧
      ListsOnce types (color.options.map ColorOption.type) := by
  obtain ⟨missing, given⟩ := color?_stable mixedModes
  obtain ⟨color, built⟩ := Option.ne_none_iff_exists'.mp (mt missing.mp (by decide))
  obtain ⟨parted, -, chooses, speeds⟩ := given color built
  obtain ⟨colors, grays, others, whole, color, gray, other⟩ := parted
  have twelve : int32? (trim " 12 ".toList) = some 12 := by decide
  refine ⟨_, built, ?_, chooses, twelve, speeds " 12 " 12 twelve⟩
  rw [whole, List.map_append, List.map_append, color.keywords, gray.keywords, other.keywords]
  decide

end PrintConnector.Ppd
