import Mathlib.Data.List.Forall2
import PrintConnector.Ppd.Constraint
import PrintConnector.Proofs.Text.Blank

namespace PrintConnector.Ppd

open PrintConnector.Text

variable {statement : Statement} {statements : List Statement} {outline more : Outline}
  {rule : Constraint} {record text : List Char} {block : Block} {hardware value : String}

/-- A text is made of the four words of a constraint, blanks apart. -/
def Constraint.IsWritten (rule : Constraint) (text : List Char) : Prop :=
  rule.hardware ≠ "" ∧ '*' ∉ rule.hardware.toList ∧
    rule.control ≠ "" ∧ '*' ∉ rule.control.toList ∧
    Reads ['*' :: rule.hardware.toList, rule.value.toList, '*' :: rule.control.toList,
      rule.choice.toList] text

/-- A block of installable hardware declares a value as installed. -/
def Outline.Installs (outline : Outline) (hardware value : String) : Prop :=
  ∃ block ∈ outline.installables, ∃ statement ∈ block,
    statement.keyword = "Default" ++ hardware ∧ statement.value = value

/-- Among the statements is a constraint that forbids a choice where some value is
installed, and it is. -/
def Outline.RulesOut (outline : Outline) (statements : List Statement)
    (choice : Statement) : Prop :=
  ∃ limit ∈ statements, limit.keyword = "UIConstraints" ∧ ∃ rule : Constraint,
    rule.IsWritten limit.value.toList ∧ rule.control = choice.keyword ∧
      rule.choice = choice.option ∧ outline.Installs rule.hardware rule.value

/-- The same controls under no fewer constraints, with no less installed. -/
structure Outline.Restricts (outline more : Outline) : Prop where
  controls : more.controls = outline.controls
  constraints : outline.constraints ⊆ more.constraints
  installables : outline.installables.flatten ⊆ more.installables.flatten

/-- Where a statement may be added to those in front of it without a change to
the controls: a constraint anywhere, and what is no mark of structure inside the
group of installable hardware. -/
def Statement.Restrains (added : Statement) (front : List Statement) : Prop :=
  added.role = .constraint ∨
    added.role = .content ∧ (front.foldl Outline.Cursor.next .start).insideInstallables = true

/-- The permitted blocks of an outline, and how they change with it. -/
structure Outline.Exact (outline : Outline) (statements : List Statement) : Prop where
  /-- Every block keeps, in its order, all that is not ruled out. -/
  kept : ∃ keeps : Statement → Bool,
    (∀ choice, keeps choice = true ↔ ¬ outline.RulesOut statements choice) ∧
      outline.permitted = outline.controls.map (List.filter keeps)
  again : { outline with controls := outline.permitted }.permitted = outline.permitted
  /-- Under more constraints, or with more installed, no block gains a choice. -/
  shrinks : ∀ more, outline.Restricts more →
    List.Forall₂ List.Sublist more.permitted outline.permitted
  /-- What restrains the controls may be added anywhere in the text. -/
  added : ∀ front back added, statements = front ++ back → added.Restrains front →
    outline.Restricts (ofStatements (front ++ added :: back))

theorem starred?_eq_some_iff {word keyword : List Char} :
    starred? word = some keyword ↔ word = '*' :: keyword ∧ keyword ≠ [] ∧ '*' ∉ keyword := by
  unfold starred?
  split
  · rename_i rest
    split
    · rename_i refused
      simp only [reduceCtorEq, false_iff]
      rintro ⟨same, nonempty, unstarred⟩
      cases same
      simp [nonempty, unstarred] at refused
    · rename_i proper
      simp only [Bool.or_eq_true, not_or, List.isEmpty_iff, List.contains_iff_mem] at proper
      simp only [Option.some.injEq, List.cons.injEq, true_and]
      constructor
      · rintro rfl
        exact ⟨rfl, proper⟩
      · exact And.left
  · rename_i unstarred
    simp only [reduceCtorEq, false_iff]
    exact fun ⟨same, _⟩ => unstarred keyword same

theorem Constraint.parse?_eq_some_iff (trimmed : trim text = text) :
    Constraint.parse? text = some rule ↔ rule.IsWritten text := by
  have spelled (word : List Char) (string : String) :
      String.ofList word = string ↔ word = string.toList := by
    rw [← String.toList_inj, String.toList_ofList]
  have nonempty (string : String) : string ≠ "" ↔ string.toList ≠ [] := by
    rw [ne_eq, ne_eq, ← String.toList_inj]
    rfl
  rw [parse?, if_neg (not_not.mpr trimmed)]
  split
  · rename_i first value third choice read
    simp only [Option.bind_eq_bind, Option.bind_eq_some_iff, starred?_eq_some_iff,
      Option.some.injEq, IsWritten, ← words_eq_iff, read, nonempty]
    constructor
    · rintro ⟨hardware, ⟨rfl, someHardware, unstarred⟩, control, ⟨rfl, someControl, plain⟩, rfl⟩
      simp only [String.toList_ofList]
      exact ⟨someHardware, unstarred, someControl, plain, trivial⟩
    · rintro ⟨someHardware, unstarred, someControl, plain, words⟩
      obtain ⟨rfl, rfl, rfl, rfl⟩ : first = _ ∧ value = _ ∧ third = _ ∧ choice = _ := by
        simpa using words
      exact ⟨_, ⟨rfl, someHardware, unstarred⟩, _, ⟨rfl, someControl, plain⟩, by
        simp only [String.ofList_toList]⟩
  · rename_i other
    simp only [reduceCtorEq, false_iff]
    rintro ⟨-, -, -, -, read⟩
    exact other _ _ _ _ (words_eq_iff.mpr read)

/-- The value of a statement is written without blanks at its ends. -/
theorem Statement.trim_readValue? {value : List Char} (read : readValue? text = some value) :
    trim value = value := by
  have quoted {body : List Char} (found : readQuoted? body = some value) :
      trim value = value := by
    unfold readQuoted? at found
    split at found
    · split at found
      · split at found
        · cases found
          exact trim_trim _
        · exact nomatch found
      · exact nomatch found
    · exact nomatch found
  have bare {body : List Char} (found : readBare? body = some value) : trim value = value := by
    unfold readBare? at found
    split at found
    · cases found
      exact trim_trim _
    · exact nomatch found
  unfold readValue? at read
  split at read
  · obtain found | ⟨-, found⟩ := Option.or_eq_some_iff.mp (by simpa using read)
    · exact quoted found
    · exact bare found
  · cases read
    rfl
  · exact nomatch read

theorem Statement.trim_value {text : String} (parsed : statement ∈ parseAll text) :
    trim statement.value.toList = statement.value.toList := by
  obtain ⟨record, -, kept⟩ := List.mem_filterMap.mp parsed
  split at kept
  · exact nomatch kept
  · obtain ⟨written, -⟩ := Option.filter_eq_some_iff.mp kept
    unfold ofRecord? at written
    simp only at written
    split at written
    · exact nomatch written
    · obtain ⟨_, -, written⟩ := Option.bind_eq_some_iff.mp written
      obtain ⟨value, read, written⟩ := Option.bind_eq_some_iff.mp written
      cases written
      simpa using trim_readValue? read

theorem Statement.role_eq_constraint_iff :
    statement.role = .constraint ↔ statement.keyword = "UIConstraints" := by
  constructor
  · intro limits
    unfold role at limits
    grind
  · intro named
    simp [role, named]

namespace Outline

theorem Cursor.constraints_next (cursor : Cursor) (statement : Statement) :
    (cursor.next statement).constraints =
      [statement].filter (·.keyword = "UIConstraints") ++ cursor.constraints := by
  simp only [← Statement.role_eq_constraint_iff]
  unfold next
  split
  case h_5 limit => simp [limit]
  all_goals rename_i role; (try split) <;> (try split) <;> simp [role]

theorem Cursor.constraints_foldl (cursor : Cursor) (statements : List Statement) :
    (statements.foldl next cursor).constraints =
      (statements.filter (·.keyword = "UIConstraints")).reverse ++ cursor.constraints := by
  induction statements generalizing cursor with
  | nil => rfl
  | cons statement rest ih =>
      rw [List.foldl_cons, ih, constraints_next]
      by_cases limit : statement.keyword = "UIConstraints" <;> simp [limit]

theorem constraints_ofStatements (statements : List Statement) :
    (ofStatements statements).constraints =
      statements.filter (·.keyword = "UIConstraints") := by
  rw [ofStatements, Cursor.finish, Cursor.constraints_foldl]
  simp [Cursor.start]

theorem mem_installed_iff :
    (hardware, value) ∈ outline.installed ↔ outline.Installs hardware value := by
  have declares (statement : Statement) :
      installedValue? statement = some (hardware, value) ↔
        statement.keyword = "Default" ++ hardware ∧ statement.value = value := by
    rw [installedValue?, Option.map_eq_some_iff]
    constructor
    · rintro ⟨name, after, same⟩
      obtain ⟨rfl, rfl⟩ := Prod.mk.inj same
      refine ⟨?_, rfl⟩
      rw [← String.toList_inj, after?_eq_some_iff.mp after]
      simp
    · rintro ⟨named, rfl⟩
      refine ⟨hardware.toList, after?_eq_some_iff.mpr ?_, by rw [String.ofList_toList]⟩
      rw [named, String.toList_append]
  simp only [installed, List.mem_filterMap, declares, List.mem_flatten, Installs]
  constructor
  · rintro ⟨statement, ⟨block, inside, member⟩, declared⟩
    exact ⟨block, inside, statement, member, declared⟩
  · rintro ⟨block, inside, statement, member, declared⟩
    exact ⟨statement, ⟨block, inside, member⟩, declared⟩

theorem mem_forbidden_iff {control choice : String} :
    (control, choice) ∈ outline.forbidden ↔ ∃ limit ∈ outline.constraints, ∃ rule,
      Constraint.parse? limit.value.toList = some rule ∧ rule.control = control ∧
        rule.choice = choice ∧ outline.Installs rule.hardware rule.value := by
  simp only [forbidden, List.mem_filterMap, Option.bind_eq_bind, Option.bind_eq_some_iff,
    List.contains_iff_mem, mem_installed_iff, Option.ite_none_right_eq_some, Option.some.injEq,
    Prod.mk.injEq]
  constructor
  · rintro ⟨limit, member, rule, read, installs, named, chosen⟩
    exact ⟨limit, member, rule, read, named, chosen, installs⟩
  · rintro ⟨limit, member, rule, read, named, chosen, installs⟩
    exact ⟨limit, member, rule, read, installs, named, chosen⟩

/-- What is forbidden among the statements of a text is what they rule out. -/
theorem mem_forbidden_ofStatements {text : String} {choice : Statement}
    (parsed : statements = Statement.parseAll text) :
    (choice.keyword, choice.option) ∈ (ofStatements statements).forbidden ↔
      (ofStatements statements).RulesOut statements choice := by
  subst parsed
  rw [mem_forbidden_iff, constraints_ofStatements]
  constructor
  · rintro ⟨limit, member, rule, read, rest⟩
    obtain ⟨member, named⟩ := List.mem_filter.mp member
    rw [Constraint.parse?_eq_some_iff (Statement.trim_value member)] at read
    exact ⟨limit, member, of_decide_eq_true named, rule, read, rest⟩
  · rintro ⟨limit, member, named, rule, written, rest⟩
    refine ⟨limit, List.mem_filter.mpr ⟨member, decide_eq_true named⟩, rule, ?_, rest⟩
    exact (Constraint.parse?_eq_some_iff (Statement.trim_value member)).mpr written

theorem permitted_again (outline : Outline) :
    { outline with controls := outline.permitted }.permitted = outline.permitted := by
  have same : { outline with controls := outline.permitted }.forbidden = outline.forbidden := rfl
  rw [permitted, same]
  simp only [permitted, List.map_map]
  refine List.map_congr_left fun block _ => ?_
  simp [List.filter_filter]

theorem Restricts.forbidden (restricts : outline.Restricts more) :
    outline.forbidden ⊆ more.forbidden := by
  rintro ⟨control, choice⟩ member
  obtain ⟨limit, member, rule, read, named, chosen, block, inside, statement, declares⟩ :=
    mem_forbidden_iff.mp member
  obtain ⟨block, inside, still⟩ := List.mem_flatten.mp
    (restricts.installables (List.mem_flatten.mpr ⟨block, inside, declares.1⟩))
  exact mem_forbidden_iff.mpr ⟨limit, restricts.constraints member, rule, read, named, chosen,
    block, inside, statement, still, declares.2⟩

/-- Where there is more to restrict them, no block gets a choice back. -/
theorem Restricts.permitted (restricts : outline.Restricts more) :
    List.Forall₂ List.Sublist more.permitted outline.permitted := by
  rw [Outline.permitted, Outline.permitted, restricts.controls, List.forall₂_map_left_iff,
    List.forall₂_map_right_iff, List.forall₂_same]
  intro block _
  refine List.monotone_filter_right block fun statement kept => ?_
  simp only [Bool.not_eq_true', List.contains_eq_mem, decide_eq_false_iff_not] at kept ⊢
  exact fun forbidden => kept (restricts.forbidden forbidden)

/-- Two reading positions that differ only in that the second has seen more
constraints and more inside the blocks of installable hardware. -/
structure Cursor.Below (cursor more : Cursor) : Prop where
  controls : more.controls = cursor.controls
  insideBlock : more.insideBlock = cursor.insideBlock
  insideInstallables : more.insideInstallables = cursor.insideInstallables
  constraints : cursor.constraints ⊆ more.constraints
  installables : List.Forall₂ (· ⊆ ·) cursor.installables more.installables

theorem forall₂_addToNewest {blocks others : List Block}
    (within : List.Forall₂ (· ⊆ ·) blocks others) (statement : Statement) :
    List.Forall₂ (· ⊆ ·) (addToNewest statement blocks) (addToNewest statement others) := by
  cases within with
  | nil => exact .nil
  | cons newest older => exact .cons (List.cons_subset_cons statement newest) older

theorem subset_addToNewest (statement : Statement) (blocks : List Block) :
    List.Forall₂ (· ⊆ ·) blocks (addToNewest statement blocks) := by
  cases blocks with
  | nil => exact .nil
  | cons newest older =>
      exact .cons (List.subset_cons_self statement newest)
        (List.forall₂_same.mpr fun _ _ => List.Subset.refl _)

theorem flatten_subset {blocks others : List Block}
    (within : List.Forall₂ (· ⊆ ·) blocks others) : blocks.flatten ⊆ others.flatten := by
  induction within with
  | nil => exact List.Subset.refl _
  | cons newest _ ih =>
      rw [List.flatten_cons, List.flatten_cons]
      exact List.append_subset.mpr
        ⟨List.subset_append_of_subset_left _ newest, List.subset_append_of_subset_right _ ih⟩

theorem Cursor.Below.refl (cursor : Cursor) : cursor.Below cursor :=
  ⟨rfl, rfl, rfl, List.Subset.refl _, List.forall₂_same.mpr fun _ _ => List.Subset.refl _⟩

theorem Cursor.Below.next {cursor more : Cursor} (below : cursor.Below more)
    (statement : Statement) : (cursor.next statement).Below (more.next statement) := by
  obtain ⟨_, _, _, _, _, _⟩ := cursor
  obtain ⟨_, _, _, _, insideBlock, insideInstallables⟩ := more
  obtain ⟨controls, block, group, constraints, installables⟩ := below
  dsimp only at controls block group constraints installables
  subst controls block group
  unfold Cursor.next
  generalize statement.role = role
  cases role with
  | openBlock =>
      cases insideInstallables with
      | true => exact ⟨rfl, rfl, rfl, constraints, .cons (by simp) installables⟩
      | false => exact ⟨rfl, rfl, rfl, constraints, installables⟩
  | closeBlock => exact ⟨rfl, rfl, rfl, constraints, installables⟩
  | openInstallables => exact ⟨rfl, rfl, rfl, constraints, installables⟩
  | closeInstallables => exact ⟨rfl, rfl, rfl, constraints, installables⟩
  | constraint =>
      exact ⟨rfl, rfl, rfl, List.cons_subset_cons statement constraints, installables⟩
  | ignored => exact ⟨rfl, rfl, rfl, constraints, installables⟩
  | content =>
      cases insideInstallables with
      | true =>
          exact ⟨rfl, rfl, rfl, constraints, forall₂_addToNewest installables statement⟩
      | false =>
          cases insideBlock with
          | true => exact ⟨rfl, rfl, rfl, constraints, installables⟩
          | false => exact ⟨rfl, rfl, rfl, constraints, installables⟩

theorem Cursor.Below.foldl {cursor more : Cursor} (below : cursor.Below more)
    (statements : List Statement) :
    (statements.foldl Cursor.next cursor).Below (statements.foldl Cursor.next more) := by
  induction statements generalizing cursor more with
  | nil => exact below
  | cons statement rest ih => exact ih (below.next statement)

theorem Cursor.below_next {front : List Statement} {added : Statement}
    (restrains : added.Restrains front) :
    (front.foldl Cursor.next .start).Below ((front.foldl Cursor.next .start).next added) := by
  have same := Cursor.Below.refl (front.foldl Cursor.next .start)
  obtain limit | ⟨content, inside⟩ := restrains
  · rw [Cursor.next, limit]
    exact { same with constraints := List.subset_cons_self added _ }
  · rw [Cursor.next, content, inside]
    exact { same with
      insideInstallables := inside.symm
      installables := subset_addToNewest added _ }

theorem flatten_inOrder (blocks : List Block) :
    (inOrder blocks).flatten = blocks.flatten.reverse := by
  rw [inOrder, List.map_reverse, List.reverse_flatten]

theorem Cursor.Below.finish {cursor more : Cursor} (below : cursor.Below more) :
    cursor.finish.Restricts more.finish := by
  refine ⟨congrArg inOrder below.controls, ?_, ?_⟩
  · intro statement member
    exact List.mem_reverse.mpr (below.constraints (List.mem_reverse.mp member))
  · intro statement member
    rw [Cursor.finish, flatten_inOrder, List.mem_reverse] at member ⊢
    exact flatten_subset below.installables member

/-- A constraint that is added, or something inside the group of installable
hardware, leaves the controls as they are. -/
theorem restricts_added {front back : List Statement} {added : Statement}
    (restrains : added.Restrains front) :
    (ofStatements (front ++ back)).Restricts (ofStatements (front ++ added :: back)) := by
  rw [ofStatements, ofStatements, List.foldl_append, List.foldl_append, List.foldl_cons]
  exact ((Cursor.below_next restrains).foldl back).finish

/-- Whatever the text of a description, its constraints take away just the choices
that they rule out. -/
theorem exact_ofStatements (text : String) :
    (ofStatements (Statement.parseAll text)).Exact (Statement.parseAll text) where
  kept := by
    refine ⟨fun choice => !(ofStatements (Statement.parseAll text)).forbidden.contains
      (choice.keyword, choice.option), fun choice => ?_, rfl⟩
    rw [← mem_forbidden_ofStatements rfl]
    simp
  again := permitted_again _
  shrinks _ restricts := restricts.permitted
  added front back added whole restrains := by
    rw [whole]
    exact restricts_added restrains

-- A unit that is not installed, a constraint on what needs it, and one that lacks a star.
example : (ofStatements
    [⟨"OpenGroup", "", "", "InstallableOptions"⟩, ⟨"OpenUI", "*Unit", "", "Boolean"⟩,
      ⟨"DefaultUnit", "", "", "False"⟩, ⟨"CloseUI", "", "", "*Unit"⟩,
      ⟨"CloseGroup", "", "", "InstallableOptions"⟩, ⟨"OpenUI", "*Duplex", "", "PickOne"⟩,
      ⟨"Duplex", "None", "", ""⟩, ⟨"Duplex", "Long", "", ""⟩, ⟨"CloseUI", "", "", "*Duplex"⟩,
      ⟨"UIConstraints", "", "", "*Unit False *Duplex Long"⟩,
      ⟨"UIConstraints", "", "", "*Unit False Duplex None"⟩]).permitted.map
    (List.map Statement.option) = [["*Duplex", "None"]] := by
  decide +kernel

end Outline

end PrintConnector.Ppd
