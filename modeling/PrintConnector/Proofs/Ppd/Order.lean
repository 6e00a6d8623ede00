import Mathlib.Data.List.FinRange
import Mathlib.Data.List.Sort
import PrintConnector.Ppd.Statement.Printer
import PrintConnector.Ppd.Translation
import PrintConnector.Proofs.Ppd.Constraint

/-! The order of independent parts of a description does not matter.

A block, the group of installable hardware with its blocks, a constraint and a
statement outside of all that are the items of a description.  An outline sorts
them and forgets how they were mixed.  What is forbidden is asked for by
membership, a control by its keyword or its translation, and a statement outside
all blocks by its keyword, so only items that share one of these have an order
to keep.
-/

namespace PrintConnector.Ppd

variable {α β : Type} {depends : α → α → Prop} {items others : List α}

/-- The others are the items in another order, in which those that depend on each
other keep theirs. -/
def Rearranges (depends : α → α → Prop) (items others : List α) : Prop :=
  ∃ order : List (Fin items.length), order.Perm (List.finRange items.length) ∧
    others = order.map items.get ∧
      order.Pairwise fun earlier later =>
        depends (items.get earlier) (items.get later) → earlier < later

theorem map_get_finRange (items : List α) :
    (List.finRange items.length).map items.get = items := by
  rw [← List.ofFn_eq_map, List.ofFn_get]

theorem Rearranges.perm (rearranged : Rearranges depends items others) : others.Perm items := by
  obtain ⟨order, places, rfl, -⟩ := rearranged
  have all := places.map items.get
  rwa [map_get_finRange] at all

/-- Items of which any two depend on each other stay in their order. -/
theorem Rearranges.filter (rearranged : Rearranges depends items others) {keeps : α → Bool}
    (tied : ∀ first second, keeps first = true → keeps second = true → depends first second) :
    others.filter keeps = items.filter keeps := by
  obtain ⟨order, places, rfl, ordered⟩ := rearranged
  have kept : (order.filter (keeps ∘ items.get)).Pairwise (· < ·) := by
    rw [List.pairwise_filter]
    refine ordered.imp ?_
    intro earlier later inOrder first second
    apply inOrder
    exact tied _ _ first second
  have sorted : ((List.finRange items.length).filter (keeps ∘ items.get)).Pairwise (· < ·) :=
    (List.pairwise_lt_finRange _).filter _
  have same : order.filter (keeps ∘ items.get) =
      (List.finRange items.length).filter (keeps ∘ items.get) :=
    (places.filter _).eq_of_pairwise' kept sorted
  have whole := List.filter_map (f := items.get) (p := keeps) (l := List.finRange items.length)
  rw [map_get_finRange] at whole
  rw [List.filter_map, same, whole]

/-- What the items give with a property keeps its order where items that give it
depend on each other. -/
theorem Rearranges.filter_flatMap (rearranged : Rearranges depends items others)
    {give : α → List β} {keeps : β → Bool}
    (tied : ∀ first second, ∀ one ∈ give first, ∀ other ∈ give second,
      keeps one = true → keeps other = true → depends first second) :
    (others.flatMap give).filter keeps = (items.flatMap give).filter keeps := by
  have giving (list : List α) : (list.flatMap give).filter keeps =
      (list.filter fun item => (give item).any keeps).flatMap fun item =>
        (give item).filter keeps := by
    induction list with
    | nil => rfl
    | cons item rest ih =>
        rw [List.flatMap_cons, List.filter_append, ih, List.filter_cons]
        cases gives : (give item).any keeps with
        | true => rfl
        | false =>
            have none : (give item).filter keeps = [] := by
              simpa using gives
            rw [none]
            rfl
  have same : others.filter (fun item => (give item).any keeps) =
      items.filter fun item => (give item).any keeps := by
    apply rearranged.filter
    intro first second gives givesToo
    obtain ⟨one, inFirst, kept⟩ := List.any_eq_true.mp gives
    obtain ⟨other, inSecond, keptToo⟩ := List.any_eq_true.mp givesToo
    exact tied first second one inFirst other inSecond kept keptToo
  rw [giving, giving, same]

/-- A complete block. -/
structure Panel where
  opening : Statement
  contents : List Statement
  closing : Statement
  opens : opening.role = .openBlock
  plain : ∀ statement ∈ contents, statement.role = .content
  closes : closing.role = .closeBlock

namespace Panel

def statements (panel : Panel) : List Statement :=
  panel.opening :: (panel.contents ++ [panel.closing])

/-- The block without the statement that closes it. -/
def block (panel : Panel) : Block :=
  panel.opening :: panel.contents

end Panel

/-- A part of a description that stands for itself. -/
inductive Item where
  | control (panel : Panel)
  /-- The group of installable hardware. -/
  | installables (opening : Statement) (panels : List Panel) (closing : Statement)
      (opens : opening.role = .openInstallables) (closes : closing.role = .closeInstallables)
  | constraint (statement : Statement) (limits : statement.role = .constraint)
  /-- A statement outside all blocks. -/
  | standalone (statement : Statement) (plain : statement.role = .content)

namespace Item

def statements : Item → List Statement
  | .control panel => panel.statements
  | .installables opening panels closing _ _ =>
      opening :: (panels.flatMap Panel.statements ++ [closing])
  | .constraint statement _ => [statement]
  | .standalone statement _ => [statement]

/-- Where the statements of an item stand. -/
def outline : Item → Outline
  | .control panel => ⟨[panel.block], [], [], []⟩
  | .installables _ panels _ _ _ => ⟨[], panels.map Panel.block, [], []⟩
  | .constraint statement _ => ⟨[], [], [statement], []⟩
  | .standalone statement _ => ⟨[], [], [], [statement]⟩

end Item

namespace Outline

/-- The outline of items is put together from theirs. -/
def ofItems (items : List Item) : Outline where
  controls := items.flatMap (·.outline.controls)
  installables := items.flatMap (·.outline.installables)
  constraints := items.flatMap (·.outline.constraints)
  standalone := items.flatMap (·.outline.standalone)

variable {contents : List Statement} {controls installables older : List Block} {block : Block}
  {constraints standalone : List Statement}

theorem Cursor.foldl_controls (plain : ∀ statement ∈ contents, statement.role = .content) :
    contents.foldl next ⟨block :: older, installables, constraints, standalone, true, false⟩ =
      ⟨(contents.reverse ++ block) :: older, installables, constraints, standalone, true,
        false⟩ := by
  induction contents generalizing block with
  | nil => rfl
  | cons statement rest ih =>
      obtain ⟨first, others⟩ := List.forall_mem_cons.mp plain
      have added : next ⟨block :: older, installables, constraints, standalone, true, false⟩
          statement = ⟨(statement :: block) :: older, installables, constraints, standalone, true,
            false⟩ := by
        rw [next, first]
        rfl
      rw [List.foldl_cons, added, ih others]
      simp

theorem Cursor.foldl_installables (plain : ∀ statement ∈ contents, statement.role = .content) :
    contents.foldl next ⟨controls, block :: older, constraints, standalone, true, true⟩ =
      ⟨controls, (contents.reverse ++ block) :: older, constraints, standalone, true, true⟩ := by
  induction contents generalizing block with
  | nil => rfl
  | cons statement rest ih =>
      obtain ⟨first, others⟩ := List.forall_mem_cons.mp plain
      have added : next ⟨controls, block :: older, constraints, standalone, true, true⟩
          statement = ⟨controls, (statement :: block) :: older, constraints, standalone, true,
            true⟩ := by
        rw [next, first]
        rfl
      rw [List.foldl_cons, added, ih others]
      simp

theorem Cursor.foldl_panel_control (panel : Panel) :
    panel.statements.foldl next ⟨controls, installables, constraints, standalone, false,
        false⟩ =
      ⟨panel.block.reverse :: controls, installables, constraints, standalone, false, false⟩ := by
  have opened : next ⟨controls, installables, constraints, standalone, false, false⟩
      panel.opening = ⟨[panel.opening] :: controls, installables, constraints, standalone, true,
        false⟩ := by
    rw [next, panel.opens]
    rfl
  rw [Panel.statements, List.foldl_cons, opened, List.foldl_append, foldl_controls panel.plain,
    List.foldl_cons, List.foldl_nil, next, panel.closes]
  simp [Panel.block]

theorem Cursor.foldl_panel_installable (panel : Panel) :
    panel.statements.foldl next ⟨controls, installables, constraints, standalone, false,
        true⟩ =
      ⟨controls, panel.block.reverse :: installables, constraints, standalone, false, true⟩ := by
  have opened : next ⟨controls, installables, constraints, standalone, false, true⟩
      panel.opening = ⟨controls, [panel.opening] :: installables, constraints, standalone, true,
        true⟩ := by
    rw [next, panel.opens]
    rfl
  rw [Panel.statements, List.foldl_cons, opened, List.foldl_append, foldl_installables panel.plain,
    List.foldl_cons, List.foldl_nil, next, panel.closes]
  simp [Panel.block]

theorem inOrder_cons (block : Block) (blocks : List Block) :
    inOrder (block :: blocks) = inOrder blocks ++ [block.reverse] := by
  simp [inOrder]

theorem inOrder_append (blocks more : List Block) :
    inOrder (blocks ++ more) = inOrder more ++ inOrder blocks := by
  simp [inOrder]

theorem inOrder_inOrder (blocks : List Block) : inOrder (inOrder blocks) = blocks := by
  simp [inOrder, List.map_map]

theorem Cursor.foldl_panels (panels : List Panel) :
    (panels.flatMap Panel.statements).foldl next ⟨controls, installables, constraints, standalone,
        false, true⟩ =
      ⟨controls, inOrder (panels.map Panel.block) ++ installables, constraints, standalone, false,
        true⟩ := by
  induction panels generalizing installables with
  | nil => rfl
  | cons panel rest ih =>
      rw [List.flatMap_cons, List.foldl_append, foldl_panel_installable, ih, List.map_cons,
        inOrder_cons, List.append_assoc, List.singleton_append]

/-- After an item nothing is open, and its statements are in their places. -/
theorem Cursor.foldl_item (item : Item) :
    item.statements.foldl next ⟨controls, installables, constraints, standalone, false, false⟩ =
      ⟨inOrder item.outline.controls ++ controls,
        inOrder item.outline.installables ++ installables,
        item.outline.constraints.reverse ++ constraints,
        item.outline.standalone.reverse ++ standalone, false, false⟩ := by
  cases item with
  | control panel => exact foldl_panel_control panel
  | installables opening panels closing opens closes =>
      have opened : next ⟨controls, installables, constraints, standalone, false, false⟩ opening =
          ⟨controls, installables, constraints, standalone, false, true⟩ := by
        rw [next, opens]
      rw [Item.statements, List.foldl_cons, opened, List.foldl_append, foldl_panels,
        List.foldl_cons, List.foldl_nil, next, closes]
      rfl
  | constraint statement limits =>
      rw [Item.statements, List.foldl_cons, List.foldl_nil, next, limits]
      rfl
  | standalone statement plain =>
      rw [Item.statements, List.foldl_cons, List.foldl_nil, next, plain]
      rfl

theorem Cursor.foldl_items (items : List Item) :
    (items.flatMap Item.statements).foldl next ⟨controls, installables, constraints, standalone,
        false, false⟩ =
      ⟨inOrder (ofItems items).controls ++ controls,
        inOrder (ofItems items).installables ++ installables,
        (ofItems items).constraints.reverse ++ constraints,
        (ofItems items).standalone.reverse ++ standalone, false, false⟩ := by
  induction items generalizing controls installables constraints standalone with
  | nil => rfl
  | cons item rest ih =>
      rw [List.flatMap_cons, List.foldl_append, foldl_item, ih]
      simp [ofItems, inOrder_append]

theorem ofStatements_items (items : List Item) :
    ofStatements (items.flatMap Item.statements) = ofItems items := by
  rw [ofStatements, Cursor.start, Cursor.foldl_items]
  simp [Cursor.finish, inOrder_inOrder]

/-- What a block keeps under the constraints of an outline. -/
def permits (outline : Outline) (block : Block) : Block :=
  block.filter fun statement =>
    !outline.forbidden.contains (statement.keyword, statement.option)

end Outline

namespace Item

/-- The control that an item gives under the constraints of an outline, if it
does. -/
def controls (outline : Outline) (item : Item) : Controls :=
  Controls.ofBlocks (item.outline.controls.map outline.permits)

/-- Items have an order to keep where they give controls with the same keyword or
the same translation, or are statements outside all blocks with the same
keyword. -/
def Depends (outline : Outline) (first second : Item) : Prop :=
  (∃ one ∈ first.controls outline, ∃ other ∈ second.controls outline,
    one.keyword = other.keyword ∨ one.translation = other.translation) ∨
  ∃ one ∈ first.outline.standalone, ∃ other ∈ second.outline.standalone,
    one.keyword = other.keyword

instance (outline : Outline) (first second : Item) : Decidable (Depends outline first second) :=
  inferInstanceAs (Decidable (
    (∃ one ∈ first.controls outline, ∃ other ∈ second.controls outline,
      one.keyword = other.keyword ∨ one.translation = other.translation) ∨
    ∃ one ∈ first.outline.standalone, ∃ other ∈ second.outline.standalone,
      one.keyword = other.keyword))

end Item

section Order

variable {items others : List Item}

theorem mem_forbidden_of_perm (permuted : others.Perm items) (choice : String × String) :
    choice ∈ (Outline.ofItems others).forbidden ↔ choice ∈ (Outline.ofItems items).forbidden := by
  have limits (statement : Statement) : statement ∈ (Outline.ofItems others).constraints ↔
      statement ∈ (Outline.ofItems items).constraints :=
    (permuted.flatMap_right _).mem_iff
  have blocks (block : Block) : block ∈ (Outline.ofItems others).installables ↔
      block ∈ (Outline.ofItems items).installables :=
    (permuted.flatMap_right _).mem_iff
  obtain ⟨control, option⟩ := choice
  simp only [Outline.mem_forbidden_iff, Outline.Installs, limits, blocks]

theorem permits_of_perm (permuted : others.Perm items) :
    (Outline.ofItems others).permits = (Outline.ofItems items).permits := by
  funext block
  apply List.filter_congr
  intro statement _
  have same := mem_forbidden_of_perm permuted (statement.keyword, statement.option)
  simp only [List.contains_eq_mem, same]

/-- The controls of items, in their order. -/
theorem ofBlocks_permitted (items : List Item) (outline : Outline)
    (same : (Outline.ofItems items).permits = outline.permits) :
    Controls.ofBlocks (Outline.ofItems items).permitted =
      items.flatMap fun item => item.controls outline := by
  have permitted : (Outline.ofItems items).permitted =
      (Outline.ofItems items).controls.map outline.permits := by
    rw [← same]
    rfl
  rw [permitted, Outline.ofItems]
  simp [Controls.ofBlocks, Item.controls, List.map_flatMap, List.filterMap_flatMap]

theorem find?_reverse_of_filter {list more : List α} {keeps : α → Bool}
    (same : list.filter keeps = more.filter keeps) :
    list.reverse.find? keeps = more.reverse.find? keeps := by
  rw [← List.head?_filter, ← List.head?_filter, List.filter_reverse, List.filter_reverse, same]

theorem printer_of_finds {controls more : Controls} (keywords : controls.find? = more.find?)
    (translations : controls.findTranslated? = more.findTranslated?) :
    controls.printer = more.printer := by
  simp only [Controls.printer, Controls.findFirst?, keywords, translations]

/-- What the last statement with each keyword gives.  What none gives stays. -/
def Translation.withLast (translation : Translation) (last : String → Option Statement) :
    Translation where
  printer := { translation.printer with
    margins := ((last "HWMargins").map fun statement =>
      margins? statement.value).getD translation.printer.margins
    printingSpeed := ((last "Throughput").map fun statement =>
      printingSpeed? statement.value translation.printer.color).getD
        translation.printer.printingSpeed }
  manufacturer := ((last "Manufacturer").map Statement.value).getD translation.manufacturer
  model := ((last "NickName").map fun statement =>
    cleanModel statement.value).getD translation.model

theorem foldl_withStandalone (translation : Translation) (statements : List Statement) :
    statements.foldl Translation.withStandalone translation =
      translation.withLast fun keyword =>
        statements.reverse.find? fun statement => statement.keyword = keyword := by
  induction statements using List.reverseRecOn with
  | nil => rfl
  | append_singleton statements statement ih =>
      rw [List.foldl_append, ih, List.foldl_cons, List.foldl_nil, Translation.withStandalone]
      split
      · rename_i same
        simp [Translation.withLast, same]
      · split
        · rename_i same
          simp [Translation.withLast, same]
        · split
          · rename_i same
            simp [Translation.withLast, same]
          · split
            · rename_i same
              simp [Translation.withLast, same]
            · rename_i manufacturer model margins speed
              simp [Translation.withLast, manufacturer, model, margins, speed]

/-- Descriptions that are made of the same items are translated alike, whatever
their order, if only controls that share a keyword or a translation and outside
statements that share a keyword keep theirs. -/
theorem ofText_rearranged {text other : String}
    (parsed : Statement.parseAll text = items.flatMap Item.statements)
    (reparsed : Statement.parseAll other = others.flatMap Item.statements)
    (rearranged : Rearranges (Item.Depends (Outline.ofStatements (Statement.parseAll text)))
      items others) :
    Translation.ofText other = Translation.ofText text := by
  rw [parsed, Outline.ofStatements_items] at rearranged
  have permits := permits_of_perm rearranged.perm
  have controls (keeps : Control → Bool)
      (shared : ∀ one other, keeps one = true → keeps other = true →
        one.keyword = other.keyword ∨ one.translation = other.translation) :
      (Controls.ofBlocks (Outline.ofItems others).permitted).reverse.find? keeps =
        (Controls.ofBlocks (Outline.ofItems items).permitted).reverse.find? keeps := by
    rw [ofBlocks_permitted others _ permits, ofBlocks_permitted items _ rfl]
    apply find?_reverse_of_filter
    apply rearranged.filter_flatMap
    intro first second one inFirst other inSecond kept keptToo
    exact .inl ⟨one, inFirst, other, inSecond, shared one other kept keptToo⟩
  have standalone (keyword : String) :
      ((Outline.ofItems others).standalone.reverse.find? fun statement =>
          statement.keyword = keyword) =
        (Outline.ofItems items).standalone.reverse.find? fun statement =>
          statement.keyword = keyword := by
    apply find?_reverse_of_filter
    apply rearranged.filter_flatMap
    intro first second one inFirst other inSecond kept keptToo
    have same := (of_decide_eq_true kept).trans (of_decide_eq_true keptToo).symm
    exact .inr ⟨one, inFirst, other, inSecond, same⟩
  have printer : (Controls.ofBlocks (Outline.ofItems others).permitted).printer =
      (Controls.ofBlocks (Outline.ofItems items).permitted).printer := by
    apply printer_of_finds
    · funext keyword
      apply controls
      intro one other kept keptToo
      exact .inl ((of_decide_eq_true kept).trans (of_decide_eq_true keptToo).symm)
    · funext translation
      apply controls
      intro one other kept keptToo
      exact .inr ((of_decide_eq_true kept).trans (of_decide_eq_true keptToo).symm)
  rw [Translation.ofText, Translation.ofText, parsed, reparsed, Outline.ofStatements_items,
    Outline.ofStatements_items, Translation.ofOutline, Translation.ofOutline,
    foldl_withStandalone, foldl_withStandalone, printer]
  simp only [standalone]

end Order

/-- A unit that is not there, a constraint on what needs it, two blocks, and the
manufacturer's name, given twice. -/
def mixedItems : List Item :=
  [.installables ⟨"OpenGroup", "", "", "InstallableOptions"⟩
      [⟨⟨"OpenUI", "*Unit", "", "Boolean"⟩, [⟨"DefaultUnit", "", "", "False"⟩],
        ⟨"CloseUI", "", "", "*Unit"⟩, by decide, by decide, by decide⟩]
      ⟨"CloseGroup", "", "", "InstallableOptions"⟩ (by decide) (by decide),
    .constraint ⟨"UIConstraints", "", "", "*Unit False *Duplex DuplexTumble"⟩ (by decide),
    .control ⟨⟨"OpenUI", "*Duplex", "", "PickOne"⟩,
      [⟨"Duplex", "None", "", ""⟩, ⟨"Duplex", "DuplexTumble", "", ""⟩],
      ⟨"CloseUI", "", "", "*Duplex"⟩, by decide, by decide, by decide⟩,
    .standalone ⟨"Manufacturer", "", "", "HP"⟩ (by decide),
    .control ⟨⟨"JCLOpenUI", "*OutputBin", "", "PickOne"⟩,
      [⟨"OutputBin", "Upper", "", ""⟩], ⟨"JCLCloseUI", "", "", "*OutputBin"⟩,
      by decide, by decide, by decide⟩,
    .standalone ⟨"Manufacturer", "", "", "Ricoh"⟩ (by decide)]

/-- The unit last and the blocks the other way round. -/
def mixedOrder : List (Fin mixedItems.length) :=
  [⟨3, by decide⟩, ⟨4, by decide⟩, ⟨2, by decide⟩, ⟨5, by decide⟩, ⟨1, by decide⟩, ⟨0, by decide⟩]

def remixedItems : List Item :=
  mixedOrder.map mixedItems.get

/-- The text of items, a statement on each line. -/
def textOf (items : List Item) : String :=
  Statement.renderLines .lf ((items.flatMap Item.statements).map (.statement true))

theorem mixedItems_rearranged :
    Statement.parseAll (textOf mixedItems) = mixedItems.flatMap Item.statements ∧
      Statement.parseAll (textOf remixedItems) = remixedItems.flatMap Item.statements ∧
      Rearranges (Item.Depends (Outline.ofStatements (Statement.parseAll (textOf mixedItems))))
        mixedItems remixedItems ∧
      Translation.ofText (textOf remixedItems) = Translation.ofText (textOf mixedItems) := by
  have parsed : Statement.parseAll (textOf mixedItems) = mixedItems.flatMap Item.statements := by
    rw [textOf, Statement.renderLines, Statement.parseAll, String.toList_ofList]
    decide +kernel
  have reparsed :
      Statement.parseAll (textOf remixedItems) = remixedItems.flatMap Item.statements := by
    rw [textOf, Statement.renderLines, Statement.parseAll, String.toList_ofList]
    decide +kernel
  have places : mixedOrder.Perm (List.finRange mixedItems.length) := by
    decide +kernel
  have ordered : mixedOrder.Pairwise fun earlier later =>
      Item.Depends (Outline.ofStatements (mixedItems.flatMap Item.statements))
        (mixedItems.get earlier) (mixedItems.get later) → earlier < later := by
    decide +kernel
  have rearranged : Rearranges
      (Item.Depends (Outline.ofStatements (Statement.parseAll (textOf mixedItems))))
      mixedItems remixedItems := by
    rw [parsed]
    exact ⟨mixedOrder, places, rfl, ordered⟩
  exact ⟨parsed, reparsed, rearranged, ofText_rearranged parsed reparsed rearranged⟩

end PrintConnector.Ppd
