import PrintConnector.Ppd.Translation
import PrintConnector.Proofs.Device.Choice

namespace PrintConnector.Ppd

open PrintConnector.Device

variable {α : Type} [Choice α] {control : Control} {controls : Controls} {block : Block}
  {statements : List Statement} {options : List α} {key : α → String} {keyword value : String}
  {outline : Outline} {printer : Printer}

/-- The last statement with a keyword has a value. -/
def EndsWith (keyword value : String) (statements : List Statement) : Prop :=
  ∃ front statement back, statements = front ++ statement :: back ∧
    statement.keyword = keyword ∧ statement.value = value ∧
    ∀ later ∈ back, later.keyword ≠ keyword

/-- A control is what a block says after its first statement. -/
structure Control.IsOf (control : Control) (block : Block) : Prop where
  options : ∀ option ∈ control.options, option ∈ block.tail ∧ option.option ≠ ""
  /-- The default that is declared last, if it is offered, or else the first
  option. -/
  default :
    (EndsWith ("Default" ++ control.keyword) control.default block.tail ∧
      ∃ option ∈ control.options, option.option = control.default) ∨
    (∀ value, EndsWith ("Default" ++ control.keyword) value block.tail →
      ∀ option ∈ control.options, option.option ≠ value) ∧
    ∃ first rest, control.options = first :: rest ∧ control.default = first.option

/-- A section offers options of a control, and flags one of them. -/
structure Offers (key : α → String) (control : Control) (options : List α) : Prop where
  keywords : ∀ option ∈ options, ∃ statement ∈ control.options, statement.option = key option
  single : options.countP Choice.isDefault = 1
  chooses : Chooses key control.default options

/-- The sections of a printer that offer choices, and the controls that they are
built from. -/
structure Defaulted (controls : Controls) (printer : Printer) : Prop where
  mediaSize : ∀ media, printer.mediaSize = some media → ∃ control,
    controls.find? "PageSize" = some control ∧ Offers MediaOption.vendorId control media.options
  color : ∀ color, printer.color = some color → ∃ control,
    controls.findFirst? ["ColorModel", "CMAndResolution", "SelectColor"] = some control ∧
      color.vendorKey = control.keyword ∧ Offers ColorOption.vendorId control color.options
  duplex : ∀ duplex, printer.duplex = some duplex → ∃ control,
    controls.findFirst? ["Duplex", "KMDuplex"] = some control ∧
      duplex.vendorKey = control.keyword ∧ Offers DuplexOption.vendorId control duplex.options
  dpi : ∀ dpi, printer.dpi = some dpi → ∃ control,
    controls.find? "Resolution" = some control ∧ Offers DpiOption.vendorId control dpi.options
  margins : ∀ margins, printer.margins = some margins →
    margins.options.countP Choice.isDefault = 1
  vendor : ∀ capabilities, printer.vendorCapabilities = some capabilities →
    ∀ capability ∈ capabilities, ∀ select, capability.select = some select → ∃ control,
      (controls.find? "OutputBin" = some control ∨
        controls.findTranslated? "Print Quality" = some control) ∧
      capability.id = control.keyword ∧ Offers SelectOption.value control select.options

theorem endsWith_of_getLast? {statement : Statement}
    (last : (statements.filter (·.keyword = keyword)).getLast? = some statement) :
    EndsWith keyword statement.value statements := by
  obtain ⟨before, filtered⟩ := List.getLast?_eq_some_iff.mp last
  obtain ⟨front, rest, rfl, -, tail⟩ := List.filter_eq_append_iff.mp filtered
  obtain ⟨middle, back, rfl, -, same, none⟩ := List.filter_eq_cons_iff.mp tail
  refine ⟨front ++ middle, statement, back, by simp, of_decide_eq_true same, rfl, ?_⟩
  intro later member
  simpa using List.filter_eq_nil_iff.mp none later member

theorem EndsWith.lastValue (ends : EndsWith keyword value statements) :
    Control.lastValue keyword statements = value := by
  obtain ⟨front, statement, back, rfl, same, rfl, later⟩ := ends
  have none : back.filter (·.keyword = keyword) = [] :=
    List.filter_eq_nil_iff.mpr fun other member => by simpa using later other member
  simp [Control.lastValue, List.filter_append, same, none]

theorem endsWith_lastValue (nonempty : Control.lastValue keyword statements ≠ "") :
    EndsWith keyword (Control.lastValue keyword statements) statements := by
  unfold Control.lastValue at nonempty ⊢
  cases last : (statements.filter (·.keyword = keyword)).getLast? with
  | none => simp [last] at nonempty
  | some statement => exact endsWith_of_getLast? last

theorem Control.isOf_of_ofBlock? (built : Control.ofBlock? block = some control) :
    control.IsOf block := by
  cases block with
  | nil => contradiction
  | cons opening contents =>
      simp only [Control.ofBlock?] at built
      split at built
      · contradiction
      · obtain ⟨kind, -, built⟩ := Option.bind_eq_some_iff.mp built
        obtain ⟨first, head, built⟩ := Option.bind_eq_some_iff.mp built
        obtain rfl := Option.some.inj built
        obtain ⟨rest, split⟩ := List.head?_eq_some_iff.mp head
        have named : ∀ option ∈ contents.filter
            (Control.offers (.ofList (opening.option.toList.dropWhile (· = '*')))),
            option ∈ contents ∧ option.option ≠ "" := by
          intro option member
          obtain ⟨inside, offered⟩ := List.mem_filter.mp member
          simp only [Control.offers, Bool.and_eq_true, decide_eq_true_eq] at offered
          exact ⟨inside, offered.2⟩
        refine ⟨named, ?_⟩
        dsimp only
        split
        · rename_i offered
          obtain ⟨option, inside, same⟩ := List.any_eq_true.mp offered
          have declared := of_decide_eq_true same
          refine .inl ⟨endsWith_lastValue ?_, option, inside, declared⟩
          rw [← declared]
          exact (named option inside).2
        · rename_i absent
          refine .inr ⟨?_, first, rest, split, rfl⟩
          intro value ends option inside same
          refine absent (List.any_eq_true.mpr ⟨option, inside, decide_eq_true ?_⟩)
          rw [same]
          exact ends.lastValue.symm

/-- Controls that are what the blocks of a description say. -/
def Controls.AreOf (controls : Controls) (blocks : List Block) : Prop :=
  ∀ control ∈ controls, ∃ block ∈ blocks,
    Control.ofBlock? block = some control ∧ control.IsOf block

theorem Controls.ofBlocks_areOf (blocks : List Block) : (Controls.ofBlocks blocks).AreOf blocks := by
  intro control member
  obtain ⟨block, inside, built⟩ := List.mem_filterMap.mp member
  exact ⟨block, inside, built, Control.isOf_of_ofBlock? built⟩

section Sections

/-- A section whose choices are told apart by their keywords. -/
theorem offers_of_offer {choices : List α} (offered : offer? choices = some options)
    (keys : ∀ choice flag, key (Choice.withDefault choice flag) = key choice)
    (keywords : ∀ keyword ∈ choices.map key, ∃ statement ∈ control.options,
      statement.option = keyword)
    (marks : Marks key control.default choices) : Offers key control options := by
  have chooses := chooses_of_offer offered keys marks
  refine ⟨?_, chooses.single, chooses⟩
  intro option member
  refine keywords (key option) ?_
  rw [← map_key_of_offer offered keys]
  exact List.mem_map_of_mem member

/-- A section built option by option, where some may be left out. -/
theorem offers_of_filterMap {convert : Statement → Option α}
    (offered : offer? (control.options.filterMap convert) = some options)
    (keys : ∀ choice flag, key (Choice.withDefault choice flag) = key choice)
    (converts : ∀ statement choice, convert statement = some choice → key choice = statement.option ∧
      Choice.isDefault choice = decide (statement.option = control.default)) :
    Offers key control options := by
  refine offers_of_offer offered keys ?_ (marks_of_pointwise ?_)
  · intro keyword member
    obtain ⟨choice, inside, rfl⟩ := List.mem_map.mp member
    obtain ⟨statement, given, converted⟩ := List.mem_filterMap.mp inside
    exact ⟨statement, given, (converts statement choice converted).1.symm⟩
  · intro choice inside
    obtain ⟨statement, -, converted⟩ := List.mem_filterMap.mp inside
    obtain ⟨same, flag⟩ := converts statement choice converted
    rw [flag, same]

theorem namedMedia?_vendorId {keyword : String} {size : MediaOption}
    (found : namedMedia? keyword = some size) : size.vendorId = keyword := by
  obtain ⟨_, _, rfl⟩ := Option.map_eq_some_iff.mp found
  rfl

theorem customMedia?_vendorId {keyword translation : String} {size : MediaOption}
    (read : customMedia? keyword translation = some size) : size.vendorId = keyword := by
  obtain ⟨_, _, rest⟩ := Option.bind_eq_some_iff.mp read
  obtain ⟨_, _, rest⟩ := Option.bind_eq_some_iff.mp rest
  obtain ⟨_, _, rest⟩ := Option.bind_eq_some_iff.mp rest
  obtain rfl := Option.some.inj rest
  rfl

theorem mediaOption?_inv {default : String} {statement : Statement} {size : MediaOption}
    (converted : mediaOption? default statement = some size) :
    size.vendorId = statement.option ∧ size.isDefault = decide (statement.option = default) := by
  unfold mediaOption? at converted
  split at converted
  · contradiction
  · obtain ⟨plain, found, rfl⟩ := Option.map_eq_some_iff.mp converted
    refine ⟨?_, rfl⟩
    change plain.vendorId = statement.option
    cases named : namedMedia? statement.option with
    | some size =>
        rw [named] at found
        obtain rfl := Option.some.inj found
        exact namedMedia?_vendorId named
    | none =>
        rw [named, Option.orElse_none] at found
        exact customMedia?_vendorId found

theorem mediaSize?_offers {media : MediaSize} (built : mediaSize? control = some media) :
    Offers MediaOption.vendorId control media.options := by
  obtain ⟨options, offered, rfl⟩ := Option.map_eq_some_iff.mp built
  exact offers_of_filterMap offered (fun _ _ => rfl) fun _ _ => mediaOption?_inv

theorem duplex?_offers {duplex : Duplex} (built : duplex? control = some duplex) :
    duplex.vendorKey = control.keyword ∧ Offers DuplexOption.vendorId control duplex.options := by
  obtain ⟨options, offered, rfl⟩ := Option.map_eq_some_iff.mp built
  refine ⟨rfl, offers_of_filterMap offered (fun _ _ => rfl) ?_⟩
  intro statement choice converted
  obtain ⟨_, _, rfl⟩ := Option.map_eq_some_iff.mp converted
  exact ⟨rfl, rfl⟩

theorem dpi?_offers {dpi : Dpi} (built : dpi? control = some dpi) :
    Offers DpiOption.vendorId control dpi.options := by
  obtain ⟨options, offered, rfl⟩ := Option.map_eq_some_iff.mp built
  refine offers_of_filterMap offered (fun _ _ => rfl) ?_
  intro statement choice converted
  obtain ⟨_, _, rfl⟩ := Option.map_eq_some_iff.mp converted
  exact ⟨rfl, rfl⟩

theorem vendorCapability?_offers {capability : VendorCapability} {select : SelectCapability}
    (built : vendorCapability? control = some capability)
    (selects : capability.select = some select) :
    capability.id = control.keyword ∧ Offers SelectOption.value control select.options := by
  unfold vendorCapability? at built
  split at built
  · obtain ⟨settled, offering, rfl⟩ := Option.map_eq_some_iff.mp built
    obtain rfl := Option.some.inj selects
    obtain ⟨options, offered, rfl⟩ := Option.map_eq_some_iff.mp offering
    rw [← List.filterMap_eq_map] at offered
    refine ⟨rfl, offers_of_filterMap offered (fun _ _ => rfl) ?_⟩
    intro statement choice converted
    obtain rfl := Option.some.inj converted
    exact ⟨rfl, rfl⟩
  · obtain rfl := Option.some.inj built
    contradiction

theorem margins?_single {text : String} {margins : Margins} (built : margins? text = some margins) :
    margins.options.countP Choice.isDefault = 1 := by
  obtain ⟨_, _, rest⟩ := Option.bind_eq_some_iff.mp built
  obtain ⟨options, offered, rfl⟩ := Option.map_eq_some_iff.mp rest
  obtain rfl := Option.some.inj offered
  rfl

theorem ColorPart.mem_options {part : ColorPart} {offered : List Statement} {option : ColorOption}
    (member : option ∈ part.options offered) :
    (∃ statement ∈ offered, statement.option = option.vendorId) ∧ option.isDefault = false := by
  obtain ⟨statement, inside, rfl⟩ := List.mem_map.mp member
  exact ⟨⟨statement, (List.mem_filter.mp inside).1, rfl⟩, rfl⟩

/-- The flag is all that changes. -/
theorem map_flagFirst {β : Type} {key : ColorOption → β}
    (keeps : ∀ mode flag, key { mode with isDefault := flag } = key mode) (default : String)
    (modes : List ColorOption) : (flagFirst default modes).map key = modes.map key := by
  induction modes with
  | nil => rfl
  | cons mode rest ih =>
      rw [flagFirst]
      split
      · rw [List.map_cons, List.map_cons, keeps]
      · rw [List.map_cons, List.map_cons, ih]

theorem marks_flagFirst {default : String} {modes : List ColorOption}
    (unflagged : ∀ mode ∈ modes, mode.isDefault = false) :
    Marks ColorOption.vendorId default (flagFirst default modes) := by
  induction modes with
  | nil => exact .inr (by simp [flagFirst])
  | cons mode rest ih =>
      rw [flagFirst]
      split
      · rename_i same
        exact .inl ⟨[], _, rest, rfl, rfl, same, by simp⟩
      · rename_i different
        have plain := unflagged mode List.mem_cons_self
        rcases ih (fun other member => unflagged other (List.mem_cons_of_mem _ member)) with
          ⟨front, option, back, split, flagged, same, earlier⟩ | none
        · refine .inl ⟨mode :: front, option, back, by rw [split]; rfl, flagged, same, ?_⟩
          intro other member
          rcases List.mem_cons.mp member with rfl | inside
          · exact ⟨plain, different⟩
          · exact earlier other inside
        · refine .inr ?_
          intro other member
          rcases List.mem_cons.mp member with rfl | inside
          · exact ⟨plain, different⟩
          · exact none other inside

theorem color?_offers {color : Color} (built : color? control = some color) :
    color.vendorKey = control.keyword ∧ Offers ColorOption.vendorId control color.options := by
  obtain ⟨options, offered, rfl⟩ := Option.map_eq_some_iff.mp built
  have modes : ∀ mode ∈ ColorPart.color.options control.options ++
      ColorPart.gray.options control.options ++ ColorPart.other.options control.options,
      (∃ statement ∈ control.options, statement.option = mode.vendorId) ∧
        mode.isDefault = false := by
    intro mode member
    rcases List.mem_append.mp member with front | other
    · rcases List.mem_append.mp front with color | gray
      · exact ColorPart.mem_options color
      · exact ColorPart.mem_options gray
    · exact ColorPart.mem_options other
  refine ⟨rfl, offers_of_offer offered (fun _ _ => rfl) ?_ (marks_flagFirst fun mode member =>
    (modes mode member).2)⟩
  intro keyword member
  rw [map_flagFirst fun _ _ => rfl] at member
  obtain ⟨mode, inside, rfl⟩ := List.mem_map.mp member
  exact (modes mode inside).1

end Sections

theorem lockedPrintPassword?_select {jobType password : Control} {capability : VendorCapability}
    (built : lockedPrintPassword? jobType password = some capability) :
    capability.select = none := by
  unfold lockedPrintPassword? at built
  split at built
  · obtain rfl := Option.some.inj built
    rfl
  · contradiction

theorem Controls.printer_defaulted (controls : Controls) :
    Defaulted controls controls.printer where
  mediaSize media built := by
    obtain ⟨control, found, built⟩ := Option.bind_eq_some_iff.mp built
    exact ⟨control, found, mediaSize?_offers built⟩
  color color built := by
    obtain ⟨control, found, built⟩ := Option.bind_eq_some_iff.mp built
    exact ⟨control, found, color?_offers built⟩
  duplex duplex built := by
    obtain ⟨control, found, built⟩ := Option.bind_eq_some_iff.mp built
    exact ⟨control, found, duplex?_offers built⟩
  dpi dpi built := by
    obtain ⟨control, found, built⟩ := Option.bind_eq_some_iff.mp built
    exact ⟨control, found, dpi?_offers built⟩
  margins margins built := by contradiction
  vendor capabilities built capability member select selects := by
    simp only [Controls.printer] at built
    split at built
    · contradiction
    · obtain rfl := Option.some.inj built
      obtain ⟨_, given, rfl⟩ := List.mem_filterMap.mp member
      simp only [List.mem_cons, List.not_mem_nil, or_false] at given
      rcases given with bin | password | quality
      · obtain ⟨control, found, built⟩ := Option.bind_eq_some_iff.mp bin.symm
        exact ⟨control, .inl found, vendorCapability?_offers built selects⟩
      · obtain ⟨jobType, _, rest⟩ := Option.bind_eq_some_iff.mp password.symm
        obtain ⟨locked, _, built⟩ := Option.bind_eq_some_iff.mp rest
        exact nomatch (lockedPrintPassword?_select built).symm.trans selects
      · obtain ⟨control, found, built⟩ := Option.bind_eq_some_iff.mp quality.symm
        exact ⟨control, .inr found, vendorCapability?_offers built selects⟩

theorem Defaulted.withStandalone {translation : Translation}
    (defaulted : Defaulted controls translation.printer) (statement : Statement) :
    Defaulted controls (translation.withStandalone statement).printer := by
  simp only [Translation.withStandalone]
  split
  · exact defaulted
  · split
    · exact defaulted
    · split
      · exact { defaulted with margins := fun margins built => margins?_single built }
      · split
        · exact { defaulted with }
        · exact defaulted

theorem Defaulted.standalone {translation : Translation}
    (defaulted : Defaulted controls translation.printer) (statements : List Statement) :
    Defaulted controls (statements.foldl Translation.withStandalone translation).printer := by
  induction statements generalizing translation with
  | nil => exact defaulted
  | cons statement rest ih => exact ih (defaulted.withStandalone statement)

theorem Translation.printer_withShownNames (translation : Translation) :
    translation.withShownNames.printer = translation.printer := by
  rw [Translation.withShownNames]

/-- The blocks of a description, without the choices that its constraints
forbid. -/
def blocksOf (text : String) : List Block :=
  (Outline.ofStatements (Statement.parseAll text)).permitted

/-- Whatever the text of a description, every section that offers choices flags
one of them, and it is the default of the control that the section is built
from wherever the section has it. -/
theorem ofText_defaulted (text : String) :
    (Controls.ofBlocks (blocksOf text)).AreOf (blocksOf text) ∧
      Defaulted (Controls.ofBlocks (blocksOf text)) (Translation.ofText text).printer := by
  refine ⟨Controls.ofBlocks_areOf _, ?_⟩
  rw [Translation.ofText, Translation.ofOutline, Translation.printer_withShownNames]
  exact Defaulted.standalone (Controls.printer_defaulted _) _

/-- Declares a default that is not offered and then one that is. -/
def redeclared : String :=
  "*OpenUI *Duplex/Sides: PickOne\n*DefaultDuplex: Auto\n*Duplex DuplexTumble/Short: \"\"\n" ++
    "*Duplex None/Off: \"\"\n*DefaultDuplex: None\n*CloseUI: *Duplex\n"

example : (Translation.ofText redeclared).printer.duplex.map
    (fun duplex => duplex.options.map fun option => (option.vendorId, option.isDefault)) =
      some [("DuplexTumble", false), ("None", true)] := by
  decide +kernel

end PrintConnector.Ppd
