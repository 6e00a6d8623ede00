import Mathlib.Data.List.Nodup
import PrintConnector.Proofs.Ppd.Default
import PrintConnector.Proofs.Ppd.WrittenSize

namespace PrintConnector.Ppd

open PrintConnector.Device PrintConnector.Number

variable {α β : Type} {gives : α → β → Prop} {items : List α} {results : List β}
  {option : Statement} {media : MediaOption} {default keyword text : String}
  {size : NamedSize} {width height : Decimal} {unit : LengthUnit}

/-- The results of the items that give one, in the order of the items. -/
inductive Collects (gives : α → β → Prop) : List α → List β → Prop
  | nil : Collects gives [] []
  | keep {item : α} {items : List α} {result : β} {results : List β}
      (given : gives item result) (rest : Collects gives items results) :
      Collects gives (item :: items) (result :: results)
  | drop {item : α} {items : List α} {results : List β}
      (nothing : ∀ result, ¬ gives item result) (rest : Collects gives items results) :
      Collects gives (item :: items) results

/-- The first size in a text has numbers that can be read.  Without a unit behind the
height they are inches. -/
def Writes (text : String) (width height : Decimal) (unit : LengthUnit) : Prop :=
  ∃ size : WrittenSize, size.IsFirst text.toList ∧ IsDecimal size.width width ∧
    IsDecimal size.height height ∧ size.unit.getD .inches = unit

/-- The keyword is that of a size with a name. -/
def IsNamed (keyword : String) : Prop :=
  ∃ size ∈ namedSizes, size.keyword = keyword

/-- A sheet of a size with a name. -/
def NamedSize.sheet (size : NamedSize) (option : Statement) (flag : Bool) : MediaOption where
  name := size.name
  width := size.unit.toMicrons (toSingle size.width)
  height := size.unit.toMicrons (toSingle size.height)
  isContinuousFeed := false
  isDefault := flag
  vendorId := option.option
  displayName := some (localized size.display)

/-- A sheet of a size that is written somewhere. -/
def writtenSheet (option : Statement) (width height : Decimal) (unit : LengthUnit)
    (flag : Bool) : MediaOption where
  name := "CUSTOM"
  width := unit.toMicrons (toSingle width)
  height := unit.toMicrons (toSingle height)
  isContinuousFeed := false
  isDefault := flag
  vendorId := option.option
  displayName := some (localized option.translation)

/-- What an option tells of its sheet: the size that its keyword names, or the one that is
written in its keyword, or else the one in its translation.  A size for print to the edge
tells none.  Whether the sheet is the default is left open. -/
inductive Tells (option : Statement) : MediaOption → Prop
  | named {size : NamedSize} {flag : Bool}
      (inside : ¬ ".FullBleed".toList <:+ option.option.toList)
      (listed : size ∈ namedSizes) (named : size.keyword = option.option) :
      Tells option (size.sheet option flag)
  | keyword {width height : Decimal} {unit : LengthUnit} {flag : Bool}
      (inside : ¬ ".FullBleed".toList <:+ option.option.toList)
      (unnamed : ¬ IsNamed option.option) (written : Writes option.option width height unit) :
      Tells option (writtenSheet option width height unit flag)
  | translation {width height : Decimal} {unit : LengthUnit} {flag : Bool}
      (inside : ¬ ".FullBleed".toList <:+ option.option.toList)
      (unnamed : ¬ IsNamed option.option)
      (unwritten : ∀ width height unit, ¬ Writes option.option width height unit)
      (written : Writes option.translation width height unit) :
      Tells option (writtenSheet option width height unit flag)

/-- The keyword names no size and has one that cannot be read. -/
def IsMisled (option : Statement) : Prop :=
  ¬ IsNamed option.option ∧ (∃ size : WrittenSize, size.IsFirst option.option.toList) ∧
    ∀ width height unit, ¬ Writes option.option width height unit

/-- The sheet that an option puts into the section. -/
def Gives (option : Statement) (media : MediaOption) : Prop :=
  Tells option media ∧ ¬ IsMisled option

theorem Collects.exists_of_mem {item : α} {result : β} (collects : Collects gives items results)
    (member : item ∈ items) (given : gives item result) :
    ∃ result ∈ results, gives item result := by
  induction collects with
  | nil => contradiction
  | keep first _ ih =>
      obtain rfl | member := List.mem_cons.mp member
      · exact ⟨_, List.mem_cons_self, first⟩
      · obtain ⟨other, inside, given⟩ := ih member
        exact ⟨other, List.mem_cons_of_mem _ inside, given⟩
  | drop nothing _ ih =>
      obtain rfl | member := List.mem_cons.mp member
      · exact absurd given (nothing result)
      · exact ih member

theorem Tells.vendorId (tells : Tells option media) : media.vendorId = option.option := by
  cases tells <;> rfl

theorem namedSizes_nodup : (namedSizes.map NamedSize.keyword).Nodup := by
  decide +kernel

theorem namedSize_find?_eq_some_iff :
    NamedSize.find? keyword = some size ↔ size ∈ namedSizes ∧ size.keyword = keyword := by
  constructor
  · intro found
    exact ⟨List.mem_of_find?_eq_some found, by simpa using List.find?_some found⟩
  · rintro ⟨listed, rfl⟩
    cases found : NamedSize.find? size.keyword with
    | none => simpa using List.find?_eq_none.mp found size listed
    | some other =>
        have same : other.keyword = size.keyword := by simpa using List.find?_some found
        have member := List.mem_of_find?_eq_some found
        rw [List.inj_on_of_nodup_map namedSizes_nodup member listed same]

theorem namedSize_find?_eq_none_iff : NamedSize.find? keyword = none ↔ ¬ IsNamed keyword := by
  simp [Option.eq_none_iff_forall_ne_some, namedSize_find?_eq_some_iff, IsNamed]

theorem namedMedia?_eq_some_iff : namedMedia? option.option = some media ↔
    ∃ size ∈ namedSizes, size.keyword = option.option ∧ size.sheet option false = media := by
  rw [namedMedia?, Option.map_eq_some_iff]
  simp only [namedSize_find?_eq_some_iff, and_assoc]
  rfl

theorem namedMedia?_eq_none_iff : namedMedia? keyword = none ↔ ¬ IsNamed keyword := by
  rw [namedMedia?, Option.map_eq_none_iff, namedSize_find?_eq_none_iff]

theorem isFullBleed_iff : isFullBleed keyword = true ↔ ".FullBleed".toList <:+ keyword.toList :=
  List.isSuffixOf_iff_suffix

theorem writes_iff : Writes text width height unit ↔
    ∃ size, WrittenSize.first? text.toList = some size ∧ readDecimal? size.width = some width ∧
      readDecimal? size.height = some height ∧ size.unit.getD .inches = unit := by
  simp only [Writes, WrittenSize.first?_eq_some_iff, readDecimal?_eq_some_iff]

theorem Writes.exists_isFirst (written : Writes text width height unit) :
    ∃ size : WrittenSize, size.IsFirst text.toList := by
  obtain ⟨size, first, -⟩ := written
  exact ⟨size, first⟩

theorem customMedia?_eq_some_iff :
    customMedia? option.option option.translation = some media ↔
      ∃ width height unit, (Writes option.option width height unit ∨
        (∀ size : WrittenSize, ¬ size.IsFirst option.option.toList) ∧
          Writes option.translation width height unit) ∧
        writtenSheet option width height unit false = media := by
  rw [customMedia?]
  cases first : WrittenSize.first? option.option.toList with
  | none =>
      have unwritten (size : WrittenSize) : ¬ size.IsFirst option.option.toList := by
        simp [← WrittenSize.first?_eq_some_iff, first]
      simp only [writes_iff, first, unwritten, Option.orElse_none, Option.bind_eq_bind,
        Option.bind_eq_some_iff, Option.some.injEq]
      constructor
      · rintro ⟨size, found, width, wide, height, high, same⟩
        exact ⟨width, height, _, .inr ⟨nofun, size, found, wide, high, rfl⟩, same⟩
      · rintro ⟨width, height, _, ⟨_, ⟨⟩, -⟩ | ⟨-, size, found, wide, high, rfl⟩, same⟩
        exact ⟨size, found, width, wide, height, high, same⟩
  | some size =>
      have written : size.IsFirst option.option.toList := WrittenSize.first?_eq_some_iff.mp first
      simp only [writes_iff, first, Option.orElse_some, Option.bind_eq_bind,
        Option.bind_eq_some_iff, Option.some.injEq]
      constructor
      · rintro ⟨_, rfl, width, wide, height, high, same⟩
        exact ⟨width, height, _, .inl ⟨size, rfl, wide, high, rfl⟩, same⟩
      · rintro ⟨width, height, _, ⟨_, rfl, wide, high, rfl⟩ | ⟨none, -⟩, same⟩
        · exact ⟨size, rfl, width, wide, height, high, same⟩
        · exact absurd written (none size)

/-- The flag is set where the option is the default. -/
theorem mediaOption?_eq_some_iff : mediaOption? default option = some media ↔
    Gives option media ∧ media.isDefault = decide (option.option = default) := by
  rw [mediaOption?, Option.ite_none_left_eq_some, Option.map_eq_some_iff, isFullBleed_iff]
  constructor
  · rintro ⟨inside, plain, found, rfl⟩
    refine ⟨?_, rfl⟩
    cases listed : namedMedia? option.option with
    | some sheet =>
        obtain ⟨size, member, named, rfl⟩ := namedMedia?_eq_some_iff.mp listed
        rw [listed, Option.orElse_some] at found
        obtain rfl := Option.some.inj found
        exact ⟨.named inside member named, fun misled => misled.1 ⟨size, member, named⟩⟩
    | none =>
        have unnamed := namedMedia?_eq_none_iff.mp listed
        rw [listed, Option.orElse_none] at found
        obtain ⟨width, height, unit, written | ⟨none, written⟩, rfl⟩ :=
          customMedia?_eq_some_iff.mp found
        · exact ⟨.keyword inside unnamed written, fun misled => misled.2.2 _ _ _ written⟩
        · have unwritten (width height unit) : ¬ Writes option.option width height unit := by
            intro written
            obtain ⟨size, first⟩ := written.exists_isFirst
            exact none size first
          exact ⟨.translation inside unnamed unwritten written,
            fun misled => misled.2.1.elim none⟩
  · rintro ⟨⟨tells, sound⟩, flagged⟩
    cases tells with
    | @named size flag inside listed named =>
        obtain rfl : flag = decide _ := flagged
        refine ⟨inside, size.sheet option false, ?_, rfl⟩
        rw [namedMedia?_eq_some_iff.mpr ⟨size, listed, named, rfl⟩, Option.orElse_some]
    | @keyword _ _ _ flag inside unnamed written =>
        obtain rfl : flag = decide _ := flagged
        refine ⟨inside, writtenSheet option _ _ _ false, ?_, rfl⟩
        rw [namedMedia?_eq_none_iff.mpr unnamed, Option.orElse_none]
        exact customMedia?_eq_some_iff.mpr ⟨_, _, _, .inl written, rfl⟩
    | @translation _ _ _ flag inside unnamed unwritten written =>
        obtain rfl : flag = decide _ := flagged
        have none (size : WrittenSize) : ¬ size.IsFirst option.option.toList := by
          intro first
          exact sound ⟨unnamed, ⟨size, first⟩, unwritten⟩
        refine ⟨inside, writtenSheet option _ _ _ false, ?_, rfl⟩
        rw [namedMedia?_eq_none_iff.mpr unnamed, Option.orElse_none]
        exact customMedia?_eq_some_iff.mpr ⟨_, _, _, .inr ⟨none, written⟩, rfl⟩

theorem Gives.withDefault (given : Gives option media) (flag : Bool) :
    Gives option { media with isDefault := flag } := by
  obtain ⟨tells, sound⟩ := given
  refine ⟨?_, sound⟩
  cases tells with
  | named inside listed named => exact .named inside listed named
  | keyword inside unnamed written => exact .keyword inside unnamed written
  | translation inside unnamed unwritten written =>
      exact .translation inside unnamed unwritten written

theorem mediaOption?_eq_none_iff :
    mediaOption? default option = none ↔ ∀ media, ¬ Gives option media := by
  rw [Option.eq_none_iff_forall_ne_some]
  constructor
  · intro nothing media given
    exact nothing _ (mediaOption?_eq_some_iff.mpr ⟨given.withDefault _, rfl⟩)
  · intro nothing media converted
    exact nothing media (mediaOption?_eq_some_iff.mp converted).1

theorem collects_filterMap (default : String) (options : List Statement) :
    Collects Gives options (options.filterMap (mediaOption? default)) := by
  induction options with
  | nil => exact .nil
  | cons option options ih =>
      cases converted : mediaOption? default option with
      | none =>
          rw [List.filterMap_cons_none converted]
          exact .drop (mediaOption?_eq_none_iff.mp converted) ih
      | some media =>
          rw [List.filterMap_cons_some converted]
          exact .keep (mediaOption?_eq_some_iff.mp converted).1 ih

/-- A sheet, whether or not it is the default. -/
def unflagged (media : MediaOption) : MediaOption :=
  { media with isDefault := false }

theorem Gives.congr {other : MediaOption} (given : Gives option media)
    (same : unflagged other = unflagged media) : Gives option other := by
  have given := given.withDefault other.isDefault
  simp only [unflagged, MediaOption.mk.injEq] at same
  obtain ⟨name, width, height, continuous, -, keyword, display⟩ := same
  rwa [← name, ← width, ← height, ← continuous, ← keyword, ← display] at given

theorem Collects.congr {options : List Statement} {choices others : List MediaOption}
    (collects : Collects Gives options choices)
    (same : others.map unflagged = choices.map unflagged) : Collects Gives options others := by
  induction collects generalizing others with
  | nil =>
      obtain rfl := List.map_eq_nil_iff.mp same
      exact .nil
  | keep given _ ih =>
      obtain ⟨other, rest, rfl, first, remaining⟩ := List.map_eq_cons_iff.mp same
      exact .keep (given.congr first) (ih remaining)
  | drop nothing _ ih => exact .drop nothing (ih same)

/-- Every sheet size that is told is offered, in the order of the options, but for that of
an option that is misled by its keyword.  Without any there is no section. -/
theorem mediaSize?_keeps (control : Control) :
    ∃ sheets, Collects Gives control.options sheets ∧
      mediaSize? control = if sheets.isEmpty then none else some ⟨sheets⟩ := by
  have collects := collects_filterMap control.default control.options
  refine ⟨settle _, collects.congr (map_key_settle (fun _ _ => rfl) _), ?_⟩
  rw [mediaSize?, MediaSize.ofOptions?, offer?, isEmpty_settle,
    apply_ite (Option.map MediaSize.mk)]
  rfl

/-- Sizes that are told in each of the three places, and two that are left out. -/
example : (mediaSize? ⟨"PageSize", "Page Size", .pickOne, "Photo", [
      ⟨"PageSize", "A4", "A4", ""⟩, ⟨"PageSize", "A4.FullBleed", "A4", ""⟩,
      ⟨"PageSize", "Photo", "4in x 6 or 4inx6", ""⟩, ⟨"PageSize", "Mystery", "x", ""⟩,
      ⟨"PageSize", "100x150mm", "5x7", ""⟩]⟩).map
        (fun media => media.options.map fun sheet => (sheet.vendorId, sheet.width, sheet.height)) =
    some [("A4", 210000, 297000), ("Photo", 101600, 152400), ("100x150mm", 100000, 150000)] := by
  decide +kernel

/-- An option whose keyword has a size that cannot be read, and whose translation has one
that can. -/
def pointedSize : Statement := ⟨"PageSize", "5x7.0.1", "5x7in", ""⟩

/-- A page size, and one behind it that is misled. -/
def pointedControl : Control :=
  ⟨"PageSize", "Page Size", .pickOne, "Letter", [⟨"PageSize", "Letter", "Letter", ""⟩, pointedSize]⟩

/-- It tells five by seven inches, and these are not offered. -/
theorem pointedSize_hidden :
    Tells pointedSize (writtenSheet pointedSize ⟨5, 0⟩ ⟨7, 0⟩ .inches false) ∧
      ∃ sheets, mediaSize? pointedControl = some ⟨sheets⟩ ∧
        sheets.map MediaOption.vendorId = ["Letter"] ∧
        ¬ Collects Tells pointedControl.options sheets := by
  have unwritten (width height unit) : ¬ Writes pointedSize.option width height unit := by
    intro written
    obtain ⟨size, first, -, high, -⟩ := writes_iff.mp written
    have found : WrittenSize.first? pointedSize.option.toList =
        some ⟨['5'], ['7', '.', '0', '.', '1'], none⟩ := by decide +kernel
    obtain rfl := Option.some.inj (found.symm.trans first)
    exact nomatch high
  have written : Writes pointedSize.translation ⟨5, 0⟩ ⟨7, 0⟩ .inches :=
    writes_iff.mpr ⟨⟨['5'], ['7'], some .inches⟩, by decide +kernel, rfl, rfl, rfl⟩
  have tells : Tells pointedSize (writtenSheet pointedSize ⟨5, 0⟩ ⟨7, 0⟩ .inches false) :=
    .translation (by decide) (namedSize_find?_eq_none_iff.mp (by decide +kernel)) unwritten written
  obtain ⟨sheets, offered, keywords⟩ : ∃ sheets, mediaSize? pointedControl = some ⟨sheets⟩ ∧
      sheets.map MediaOption.vendorId = ["Letter"] :=
    ⟨_, rfl, by decide +kernel⟩
  refine ⟨tells, sheets, offered, keywords, fun collects => ?_⟩
  obtain ⟨sheet, member, told⟩ := collects.exists_of_mem (by simp [pointedControl]) tells
  have keyword : "5x7.0.1" ∈ sheets.map MediaOption.vendorId :=
    List.mem_map.mpr ⟨sheet, member, told.vendorId⟩
  rw [keywords] at keyword
  exact absurd keyword (by decide)

end PrintConnector.Ppd
