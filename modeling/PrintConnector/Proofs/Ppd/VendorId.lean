import PrintConnector.Proofs.Ppd.Order
import PrintConnector.Proofs.Ppd.WellFormed

namespace PrintConnector.Ppd

open PrintConnector.Device

variable {controls : Controls} {control : Control}

/-- The ids of a printer's vendor capabilities, in their order. -/
def vendorIds (printer : Printer) : List String :=
  (printer.vendorCapabilities.getD []).map VendorCapability.id

/-- The last control that is shown as print quality is one of output bins. -/
def Controls.ShowBinsAsQuality (controls : Controls) : Prop :=
  ∃ front control back, controls = front ++ control :: back ∧
    control.translation = "Print Quality" ∧ control.keyword = "OutputBin" ∧
    ∀ later ∈ back, later.translation ≠ "Print Quality"

theorem Controls.mem_of_find? {keyword : String} (found : controls.find? keyword = some control) :
    control ∈ controls ∧ control.keyword = keyword :=
  ⟨List.mem_reverse.mp (List.mem_of_find?_eq_some found), by simpa using List.find?_some found⟩

theorem Controls.mem_of_findTranslated? {translation : String}
    (found : controls.findTranslated? translation = some control) : control ∈ controls :=
  List.mem_reverse.mp (List.mem_of_find?_eq_some found)

theorem Controls.keyword_of_find? {keyword id : String}
    (named : (controls.find? keyword).map Control.keyword = some id) : id = keyword := by
  obtain ⟨control, found, rfl⟩ := Option.map_eq_some_iff.mp named
  exact (mem_of_find? found).2

theorem Controls.keyword_find?_of_mem (here : control ∈ controls) :
    (controls.find? control.keyword).map Control.keyword = some control.keyword := by
  cases found : controls.find? control.keyword with
  | none => simpa using List.find?_eq_none.mp found control (List.mem_reverse.mpr here)
  | some other => exact congrArg some (mem_of_find? found).2

theorem Controls.findTranslated?_eq_some_iff {translation : String} :
    controls.findTranslated? translation = some control ↔
      control.translation = translation ∧ ∃ front back, controls = front ++ control :: back ∧
        ∀ later ∈ back, later.translation ≠ translation := by
  rw [findTranslated?, List.find?_eq_some_iff_append]
  constructor
  · rintro ⟨shown, behind, before, split, none⟩
    refine ⟨of_decide_eq_true shown, before.reverse, behind.reverse, ?_, ?_⟩
    · simpa using List.reverse_eq_iff.mp split
    · intro later member
      simpa using none later (List.mem_reverse.mp member)
  · rintro ⟨shown, front, back, rfl, none⟩
    refine ⟨decide_eq_true shown, back.reverse, front.reverse, by simp, ?_⟩
    intro later member
    simpa using none later (List.mem_reverse.mp member)

theorem Controls.showBinsAsQuality_iff : controls.ShowBinsAsQuality ↔
    (controls.findTranslated? "Print Quality").map Control.keyword = some "OutputBin" := by
  simp only [Option.map_eq_some_iff, findTranslated?_eq_some_iff]
  constructor
  · rintro ⟨front, control, back, split, shown, bins, none⟩
    exact ⟨control, ⟨shown, front, back, split, none⟩, bins⟩
  · rintro ⟨control, ⟨shown, front, back, split, none⟩, bins⟩
    exact ⟨front, control, back, split, shown, bins, none⟩

theorem exists_vendorCapability? (offering : control.options ≠ []) :
    ∃ capability, vendorCapability? control = some capability := by
  unfold vendorCapability?
  split
  · dsimp only
    rw [SelectCapability.ofOptions?, offer?, if_neg (by simpa using offering)]
    exact ⟨_, rfl⟩
  · exact ⟨_, rfl⟩

theorem map_id_vendorCapability? (found : Option Control)
    (offering : ∀ control ∈ found, control.options ≠ []) :
    (found.bind vendorCapability?).map VendorCapability.id = found.map Control.keyword := by
  cases found with
  | none => rfl
  | some control =>
      obtain ⟨capability, built⟩ := exists_vendorCapability? (offering control rfl)
      rw [Option.bind_some, built, Option.map_some, vendorCapability?_id built, Option.map_some]

theorem lockedPrintPassword?_id {jobType password : Control} {capability : VendorCapability}
    (built : lockedPrintPassword? jobType password = some capability) :
    capability.id = lockedPrintId := by
  rw [lockedPrintPassword?, Option.ite_none_right_eq_some] at built
  cases built.2
  rfl

/-- The ids in their order.  A part that is not there has none. -/
theorem exists_vendorIds (offering : ∀ control ∈ controls, control.options ≠ []) :
    ∃ password : Option String, (∀ id ∈ password, id = lockedPrintId) ∧
      vendorIds controls.printer =
        [(controls.find? "OutputBin").map Control.keyword, password,
          (controls.findTranslated? "Print Quality").map Control.keyword].filterMap id := by
  have listed (capabilities : List VendorCapability) :
      (if capabilities.isEmpty then none else some capabilities).getD [] = capabilities := by
    cases capabilities <;> rfl
  have bins := map_id_vendorCapability? (controls.find? "OutputBin")
    fun control found => offering control (Controls.mem_of_find? found).1
  have quality := map_id_vendorCapability? (controls.findTranslated? "Print Quality")
    fun control found => offering control (Controls.mem_of_findTranslated? found)
  let password? := (controls.find? "JobType").bind fun jobType =>
    (controls.find? "LockedPrintPassword").bind (lockedPrintPassword? jobType)
  refine ⟨password?.map VendorCapability.id, ?_, ?_⟩
  · intro id member
    obtain ⟨capability, built, rfl⟩ := Option.map_eq_some_iff.mp member
    obtain ⟨jobType, -, built⟩ := Option.bind_eq_some_iff.mp built
    obtain ⟨password, -, built⟩ := Option.bind_eq_some_iff.mp built
    exact lockedPrintPassword?_id built
  · rw [vendorIds, Controls.printer, listed, List.map_filterMap, ← bins, ← quality]
    rfl

theorem count_filterMap_parts (bins password quality : Option String) (key : String) :
    ([bins, password, quality].filterMap id).count key =
      (if bins = some key then 1 else 0) + (if password = some key then 1 else 0) +
        if quality = some key then 1 else 0 := by
  rw [List.count_filterMap]
  simp [List.countP_cons]
  omega

/-- Two parts have the same id only if the bins have it and what is shown as quality, too. -/
theorem count_parts {bins password quality : Option String}
    (isBins : ∀ id, bins = some id → id = "OutputBin")
    (isPassword : ∀ id, password = some id → id = lockedPrintId)
    (apart : quality ≠ some lockedPrintId)
    (shared : quality = some "OutputBin" → bins = some "OutputBin") (key : String) :
    ([bins, password, quality].filterMap id).count key ≤ 2 ∧
      (([bins, password, quality].filterMap id).count key = 2 ↔
        key = "OutputBin" ∧ quality = some "OutputBin") := by
  have different : "OutputBin" ≠ lockedPrintId := by decide
  rw [count_filterMap_parts]
  by_cases named : key = "OutputBin"
  · subst named
    have notPassword : password ≠ some "OutputBin" := fun here => different (isPassword _ here)
    by_cases inQuality : quality = some "OutputBin"
    · simp [notPassword, inQuality, shared inQuality]
    · rw [if_neg notPassword, if_neg inQuality]
      simp only [inQuality, and_false, iff_false]
      split <;> omega
  · have notBins : bins ≠ some key := fun here => named (isBins key here)
    have notBoth : ¬ (password = some key ∧ quality = some key) := by
      rintro ⟨inPassword, inQuality⟩
      exact apart (isPassword key inPassword ▸ inQuality)
    rw [if_neg notBins]
    simp only [named, false_and, iff_false]
    by_cases inPassword : password = some key
    · have notQuality : quality ≠ some key := fun inQuality => notBoth ⟨inPassword, inQuality⟩
      rw [if_pos inPassword, if_neg notQuality]
      omega
    · rw [if_neg inPassword]
      split <;> omega

theorem count_vendorIds (offering : ∀ control ∈ controls, control.options ≠ [])
    (undivided : ∀ control ∈ controls, IsUndivided control.keyword) (key : String) :
    (vendorIds controls.printer).count key ≤ 2 ∧ ((vendorIds controls.printer).count key = 2 ↔
      key = "OutputBin" ∧ controls.ShowBinsAsQuality) := by
  obtain ⟨password, isPassword, ids⟩ := exists_vendorIds offering
  rw [ids, Controls.showBinsAsQuality_iff]
  refine count_parts (fun id found => Controls.keyword_of_find? found) isPassword ?apart ?shared key
  case apart =>
    intro same
    obtain ⟨control, found, same⟩ := Option.map_eq_some_iff.mp same
    have here := Controls.mem_of_findTranslated? found
    exact combinedId_ne (undivided control here) _ _ _ same
  case shared =>
    intro same
    obtain ⟨control, found, named⟩ := Option.map_eq_some_iff.mp same
    exact named ▸ Controls.keyword_find?_of_mem (Controls.mem_of_findTranslated? found)

theorem offering_of_isOf {block : Block} (isOf : control.IsOf block) : control.options ≠ [] := by
  intro empty
  obtain ⟨-, option, member, -⟩ | ⟨-, first, rest, split, -⟩ := isOf.default
  · simp [empty] at member
  · simp [empty] at split

theorem vendorIds_withLast (translation : Translation) (last : String → Option Statement) :
    vendorIds (translation.withLast last).printer = vendorIds translation.printer :=
  rfl

theorem vendorIds_ofText (text : String) : vendorIds (Translation.ofText text).printer =
    vendorIds (Controls.ofBlocks (blocksOf text)).printer := by
  rw [Translation.ofText, Translation.ofOutline, Translation.printer_withShownNames,
    foldl_withStandalone, vendorIds_withLast, blocksOf]

/-- The ids of a description's vendor capabilities are all different unless the control that
is shown as print quality is one of output bins.  Otherwise its id is there twice, and every
other id still once. -/
theorem ofText_identified (text : String) :
    ((vendorIds (Translation.ofText text).printer).Nodup ↔
        ¬ (Controls.ofBlocks (blocksOf text)).ShowBinsAsQuality) ∧
      ∀ key, (vendorIds (Translation.ofText text).printer).count key ≤ 2 ∧
        ((vendorIds (Translation.ofText text).printer).count key = 2 ↔
          key = "OutputBin" ∧ (Controls.ofBlocks (blocksOf text)).ShowBinsAsQuality) := by
  have offering : ∀ control ∈ Controls.ofBlocks (blocksOf text), control.options ≠ [] := by
    intro control here
    obtain ⟨block, -, -, isOf⟩ := Controls.ofBlocks_areOf _ control here
    exact offering_of_isOf isOf
  have counts := count_vendorIds offering fun control here => (isUndivided_of_mem here).1
  rw [vendorIds_ofText, List.nodup_iff_count_le_one]
  refine ⟨⟨fun once doubled => ?_, fun single key => ?_⟩, counts⟩
  · have twice := (counts "OutputBin").2.mpr ⟨rfl, doubled⟩
    exact absurd (once "OutputBin") (by omega)
  · obtain ⟨few, twice⟩ := counts key
    exact Nat.le_of_lt_succ (few.lt_of_ne fun full => single (twice.mp full).2)

/-- Two controls of output bins.  The later one is found by its keyword, and the earlier one
still by how it is shown. -/
def relabelledBins : String :=
  "*OpenUI *OutputBin/Print Quality: PickOne\n*DefaultOutputBin: Best\n" ++
    "*OutputBin Draft/Draft: \"\"\n*OutputBin Best/Best: \"\"\n*CloseUI: *OutputBin\n" ++
    "*OpenUI *OutputBin/Destination: PickOne\n*DefaultOutputBin: Upper\n" ++
    "*OutputBin Upper/Upper Tray: \"\"\n*OutputBin Lower/Lower Tray: \"\"\n*CloseUI: *OutputBin\n"

/-- One control of output bins, found both ways. -/
def qualityBins : String :=
  "*OpenUI *OutputBin/Print Quality: PickOne\n*DefaultOutputBin: Upper\n" ++
    "*OutputBin Upper/Upper Tray: \"\"\n*OutputBin Lower/Lower Tray: \"\"\n*CloseUI: *OutputBin\n"

/-- The ids with the values that are offered under them, if it is a selection. -/
def vendorChoices (printer : Printer) : List (String × Option (List String)) :=
  (printer.vendorCapabilities.getD []).map fun capability =>
    (capability.id, capability.select.map fun select => select.options.map SelectOption.value)

/-- The two capabilities of one id do not even offer the same values. -/
theorem relabelledBins_doubled :
    vendorChoices (Translation.ofText relabelledBins).printer =
      [("OutputBin", some ["Upper", "Lower"]), ("OutputBin", some ["Draft", "Best"])] ∧
    ¬ (vendorIds (Translation.ofText relabelledBins).printer).Nodup ∧
    ¬ (vendorIds (Translation.ofText qualityBins).printer).Nodup := by
  have listed : vendorChoices (Translation.ofText relabelledBins).printer =
      [("OutputBin", some ["Upper", "Lower"]), ("OutputBin", some ["Draft", "Best"])] := by
    decide +kernel
  have ids : vendorIds (Translation.ofText relabelledBins).printer =
      ["OutputBin", "OutputBin"] := by
    simpa [vendorChoices, vendorIds, Function.comp_def] using congrArg (List.map Prod.fst) listed
  refine ⟨listed, ?_, by decide +kernel⟩
  rw [ids]
  decide

end PrintConnector.Ppd
