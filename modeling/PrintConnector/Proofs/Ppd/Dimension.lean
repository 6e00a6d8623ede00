import PrintConnector.Proofs.Ppd.Default
import PrintConnector.Proofs.Ppd.Length
import PrintConnector.Proofs.Ppd.Order

namespace PrintConnector.Ppd

open PrintConnector.Device PrintConnector.Number PrintConnector.Text

/-- The statements of a description outside all blocks. -/
def standaloneOf (text : String) : List Statement :=
  (Outline.ofStatements (Statement.parseAll text)).standalone

/-- The last statement with a keyword. -/
def lastWith? (keyword : String) (statements : List Statement) : Option Statement :=
  (statements.filter (·.keyword = keyword)).getLast?

/-- The margins that a description gives, in points: left, bottom, right and top. -/
def givenMargins? (text : String) : Option (Int × Int × Int × Int) :=
  (lastWith? "HWMargins" (standaloneOf text)).bind fun statement =>
    readMargins? statement.value.toList

/-- A sheet size as it is told, with the exact width and height in micrometres. -/
structure ToldSize where
  keyword : String
  width : ℚ
  height : ℚ
deriving DecidableEq

/-- The size that a keyword names. -/
def namedSize? (keyword : String) : Option ToldSize :=
  (NamedSize.find? keyword).map fun size =>
    ⟨keyword, size.unit.exactMicrons size.width, size.unit.exactMicrons size.height⟩

/-- The size that is written in a keyword, or else in its translation. -/
def writtenSize? (keyword translation : String) : Option ToldSize := do
  let written ←
    (WrittenSize.first? keyword.toList).orElse fun _ => WrittenSize.first? translation.toList
  let width ← readDecimal? written.width
  let height ← readDecimal? written.height
  let unit := written.unit.getD .inches
  some ⟨keyword, unit.exactMicrons width, unit.exactMicrons height⟩

/-- The size that an option tells, if it is not printed to the edge. -/
def toldSize? (option : Statement) : Option ToldSize :=
  if isFullBleed option.option then none
  else (namedSize? option.option).orElse fun _ => writtenSize? option.option option.translation

/-- The sizes that a description tells. -/
def toldSizes (text : String) : List ToldSize :=
  (((Controls.ofBlocks (blocksOf text)).find? "PageSize").map fun control =>
    control.options.filterMap toldSize?).getD []

/-- The sheet sizes of a printer. -/
def sheets (printer : Printer) : List MediaOption :=
  (printer.mediaSize.map MediaSize.options).getD []

/-- One set of margins, each held for its points. -/
def AreHeld (points : Int × Int × Int × Int) (margins : Margins) : Prop :=
  ∃ option, margins.options = [option] ∧ IsHeld (exactPoints points.1) option.left ∧
    IsHeld (exactPoints points.2.1) option.bottom ∧
    IsHeld (exactPoints points.2.2.1) option.right ∧ IsHeld (exactPoints points.2.2.2) option.top

/-- A sheet with the keyword of a size, its width and height held. -/
structure IsSheet (size : ToldSize) (sheet : MediaOption) : Prop where
  keyword : sheet.vendorId = size.keyword
  width : IsHeld size.width sheet.width
  height : IsHeld size.height sheet.height

theorem count32?_nonneg {digits : List Char} {count : Int} (read : count32? digits = some count) :
    0 ≤ count := by
  obtain ⟨value, -, rfl⟩ := Option.map_eq_some_iff.mp read
  exact Int.natCast_nonneg value

theorem readMargins?_nonneg {written : List Char} {left bottom right top : Int}
    (read : readMargins? written = some (left, bottom, right, top)) :
    0 ≤ left ∧ 0 ≤ bottom ∧ 0 ≤ right ∧ 0 ≤ top := by
  unfold readMargins? at read
  split at read
  · contradiction
  · split at read
    · obtain ⟨_, first, read⟩ := Option.bind_eq_some_iff.mp read
      obtain ⟨_, second, read⟩ := Option.bind_eq_some_iff.mp read
      obtain ⟨_, third, read⟩ := Option.bind_eq_some_iff.mp read
      obtain ⟨_, fourth, read⟩ := Option.bind_eq_some_iff.mp read
      cases read
      exact ⟨count32?_nonneg first, count32?_nonneg second, count32?_nonneg third,
        count32?_nonneg fourth⟩
    · contradiction

theorem margins?_areHeld (value : String) :
    Option.Rel AreHeld (readMargins? value.toList) (margins? value) := by
  rw [margins?]
  cases read : readMargins? value.toList with
  | none => exact .none
  | some points =>
      obtain ⟨left, bottom, right, top⟩ := points
      obtain ⟨first, second, third, fourth⟩ := readMargins?_nonneg read
      exact .some ⟨_, rfl, pointsToMicrons_isHeld first, pointsToMicrons_isHeld second,
        pointsToMicrons_isHeld third, pointsToMicrons_isHeld fourth⟩

theorem lastWith?_eq_find? (keyword : String) (statements : List Statement) :
    lastWith? keyword statements =
      statements.reverse.find? fun statement => statement.keyword = keyword := by
  rw [lastWith?, ← List.head?_reverse, ← List.filter_reverse, List.head?_filter]

/-- The last one counts, also when it gives nothing. -/
theorem margins_standalone {translation : Translation}
    (before : translation.printer.margins = none)
    (statements : List Statement) :
    (statements.foldl Translation.withStandalone translation).printer.margins =
      (lastWith? "HWMargins" statements).bind fun statement => margins? statement.value := by
  rw [foldl_withStandalone, lastWith?_eq_find?, Translation.withLast, before]
  cases statements.reverse.find? fun statement => statement.keyword = "HWMargins" <;> rfl

theorem namedMedia?_isSheet (keyword : String) :
    Option.Rel IsSheet (namedSize? keyword) (namedMedia? keyword) := by
  rw [namedSize?, namedMedia?]
  cases NamedSize.find? keyword with
  | none => exact .none
  | some size =>
      exact .some ⟨rfl, size.unit.toMicrons_isHeld size.width,
        size.unit.toMicrons_isHeld size.height⟩

theorem customMedia?_isSheet (keyword translation : String) :
    Option.Rel IsSheet (writtenSize? keyword translation) (customMedia? keyword translation) := by
  rw [writtenSize?, customMedia?]
  generalize ((WrittenSize.first? keyword.toList).orElse
    fun _ => WrittenSize.first? translation.toList) = found
  cases found with
  | none => exact .none
  | some written =>
      simp only [Option.bind_eq_bind, Option.bind_some]
      cases readDecimal? written.width with
      | none => exact .none
      | some width =>
          cases readDecimal? written.height with
          | none => exact .none
          | some height =>
              exact .some ⟨rfl, LengthUnit.toMicrons_isHeld _ width,
                LengthUnit.toMicrons_isHeld _ height⟩

theorem mediaOption?_isSheet (default : String) (option : Statement) :
    Option.Rel IsSheet (toldSize? option) (mediaOption? default option) := by
  rw [toldSize?, mediaOption?]
  split
  · exact .none
  · have named := namedMedia?_isSheet option.option
    have custom := customMedia?_isSheet option.option option.translation
    generalize namedSize? option.option = told, namedMedia? option.option = media at named ⊢
    cases named with
    | some isSheet => exact .some { isSheet with }
    | none =>
        generalize writtenSize? option.option option.translation = told,
          customMedia? option.option option.translation = media at custom
        cases custom with
        | some isSheet => exact .some { isSheet with }
        | none => exact .none

theorem forall₂_filterMap (default : String) (options : List Statement) :
    List.Forall₂ IsSheet (options.filterMap toldSize?)
      (options.filterMap (mediaOption? default)) := by
  induction options with
  | nil => exact .nil
  | cons option options ih =>
      have first := mediaOption?_isSheet default option
      rw [List.filterMap_cons, List.filterMap_cons]
      generalize toldSize? option = told, mediaOption? default option = media at first
      cases first with
      | some isSheet => exact .cons isSheet ih
      | none => exact ih

/-- What the lengths of a sheet are told of. -/
def measures (sheet : MediaOption) : String × Int × Int :=
  (sheet.vendorId, sheet.width, sheet.height)

theorem IsSheet.congr {size : ToldSize} {sheet other : MediaOption} (isSheet : IsSheet size sheet)
    (same : measures other = measures sheet) : IsSheet size other := by
  simp only [measures, Prod.mk.injEq] at same
  obtain ⟨keyword, width, height⟩ := same
  exact ⟨keyword ▸ isSheet.keyword, width ▸ isSheet.width, height ▸ isSheet.height⟩

theorem forall₂_congr {sizes : List ToldSize} {choices options : List MediaOption}
    (told : List.Forall₂ IsSheet sizes choices)
    (same : options.map measures = choices.map measures) :
    List.Forall₂ IsSheet sizes options := by
  induction told generalizing options with
  | nil =>
      obtain rfl := List.map_eq_nil_iff.mp same
      exact .nil
  | cons isSheet _ ih =>
      obtain ⟨option, rest, rfl, first, others⟩ := List.map_eq_cons_iff.mp same
      exact .cons (isSheet.congr first) (ih others)

theorem mediaSize?_isSheet (control : Control) :
    List.Forall₂ IsSheet (control.options.filterMap toldSize?)
      (((mediaSize? control).map MediaSize.options).getD []) := by
  have told := forall₂_filterMap control.default control.options
  cases offered : offer? (control.options.filterMap (mediaOption? control.default)) with
  | none =>
      have nothing : control.options.filterMap (mediaOption? control.default) = [] := by
        unfold offer? at offered
        split at offered
        · rename_i empty
          exact List.isEmpty_iff.mp empty
        · contradiction
      rw [mediaSize?, MediaSize.ofOptions?, offered]
      rwa [nothing] at told
  | some options =>
      rw [mediaSize?, MediaSize.ofOptions?, offered]
      exact forall₂_congr told (map_key_of_offer offered fun _ _ => rfl)

theorem mediaSize_standalone (translation : Translation) (statements : List Statement) :
    (statements.foldl Translation.withStandalone translation).printer.mediaSize =
      translation.printer.mediaSize := by
  rw [foldl_withStandalone]
  rfl

/-- Every length of a description is near the one that its text tells, or it is the
greatest.  A length that is too long is the greatest: it leaves nothing out, neither
the margins nor a sheet. -/
theorem ofText_held (text : String) :
    Option.Rel AreHeld (givenMargins? text) (Translation.ofText text).printer.margins ∧
      List.Forall₂ IsSheet (toldSizes text) (sheets (Translation.ofText text).printer) := by
  rw [Translation.ofText, Translation.ofOutline, Translation.printer_withShownNames]
  constructor
  · rw [margins_standalone rfl, givenMargins?, standaloneOf]
    cases lastWith? "HWMargins" (Outline.ofStatements (Statement.parseAll text)).standalone with
    | none => exact .none
    | some statement => exact margins?_areHeld statement.value
  · rw [sheets, mediaSize_standalone, toldSizes, blocksOf, Controls.printer]
    cases (Controls.ofBlocks
        (Outline.ofStatements (Statement.parseAll text)).permitted).find? "PageSize" with
    | none => exact .nil
    | some control => exact mediaSize?_isSheet control

/-- Margins and a sheet that are too long for 32 bits. -/
def hugeLengths : String :=
  "*HWMargins: \"7000000 0 0 0\"\n*OpenUI *PageSize: PickOne\n*DefaultPageSize: Letter\n" ++
    "*PageSize Letter: \"\"\n*PageSize 90000x90000: \"\"\n*CloseUI: *PageSize\n"

theorem beyond_of_le {exact : ℚ} (long : 2147483648 ≤ exact + 1 / 2) :
    2147483647 < ⌊exact + 1 / 2⌋ :=
  Int.add_one_le_iff.mp (Int.le_floor.mpr (by exact_mod_cast long))

/-- Neither is left out, and their lengths are the greatest. -/
theorem hugeLengths_clamped :
    (∃ points ∈ givenMargins? hugeLengths, 2147483647 < ⌊exactPoints points.1 + 1 / 2⌋) ∧
      (Translation.ofText hugeLengths).printer.margins.map
        (fun margins => margins.options.map MarginsOption.left) = some [2147483647] ∧
      (∃ size ∈ toldSizes hugeLengths, size.keyword = "90000x90000" ∧
        2147483647 < ⌊size.width + 1 / 2⌋ ∧ 2147483647 < ⌊size.height + 1 / 2⌋) ∧
      (sheets (Translation.ofText hugeLengths).printer).map measures =
        [("Letter", 215900, 279400), ("90000x90000", 2147483647, 2147483647)] := by
  obtain ⟨points, told, margins, sheets⟩ : givenMargins? hugeLengths = some (7000000, 0, 0, 0) ∧
      (toldSizes hugeLengths)[1]? = some ⟨"90000x90000", 2286000000, 2286000000⟩ ∧
      (Translation.ofText hugeLengths).printer.margins.map
        (fun margins => margins.options.map MarginsOption.left) = some [2147483647] ∧
      (sheets (Translation.ofText hugeLengths).printer).map measures =
        [("Letter", 215900, 279400), ("90000x90000", 2147483647, 2147483647)] := by
    decide +kernel
  refine ⟨⟨_, points, beyond_of_le ?_⟩, margins,
    ⟨_, List.mem_of_getElem? told, rfl, beyond_of_le ?_, beyond_of_le ?_⟩, sheets⟩
  · norm_num [exactPoints]
  · norm_num
  · norm_num

end PrintConnector.Ppd
