import Mathlib.Data.List.Induction
import PrintConnector.Ppd.Outline

/-! Where the statements of a description end up.

A statement has a home, told by what stands before it: a block, or one of the two
lists beside the blocks.  An outline files statements by their homes if each of its
lists has those that are at home there, in the order of the text.

Content belongs to the block that was opened last, unless that is closed.  An
outline goes by the group instead: inside the group content goes to the newest
block of hardware, open or not, and outside, as long as any block is open, to the
newest control.  The two are the same where the group is open just while a block of
hardware is.
-/

namespace PrintConnector.Ppd

/-- Where a statement is at home in an outline.  Blocks are numbered in their list. -/
inductive Home where
  | control (number : Nat)
  | installable (number : Nat)
  | constraints
  | standalone
deriving DecidableEq, Repr

/-- A block of hardware. -/
def Home.isInstallable : Home → Bool
  | .installable _ => true
  | _ => false

/-- A statement and what stands before it. -/
structure Place where
  front : List Statement
  statement : Statement

namespace Outline

/-- The places of statements, in their order. -/
def places (statements : List Statement) : List Place :=
  go [] statements
where
  go (front : List Statement) : List Statement → List Place
    | [] => []
    | statement :: rest => ⟨front, statement⟩ :: go (front ++ [statement]) rest

/-- The group of installable hardware is open: the last statement that opens or closes
it opens it. -/
def insideGroup (front : List Statement) : Bool :=
  (front.reverse.find? fun statement =>
    statement.role = .openInstallables || statement.role = .closeInstallables).any
      (·.role = .openInstallables)

/-- How many blocks are opened inside the group, or outside it. -/
def blocksOpened (inside : Bool) (statements : List Statement) : Nat :=
  (places statements).countP fun place =>
    place.statement.role = .openBlock && insideGroup place.front == inside

/-- The home of a block by its group and its number there. -/
def blockHome (inside : Bool) (number : Nat) : Home :=
  if inside then .installable number else .control number

/-- The home of the block that a statement opens. -/
def newHome (front : List Statement) : Home :=
  blockHome (insideGroup front) (blocksOpened (insideGroup front) front)

/-- The block that was opened last, if it is not closed. -/
def openBlock? (front : List Statement) : Option Home :=
  ((places front).reverse.find? fun place =>
    place.statement.role = .openBlock || place.statement.role = .closeBlock).bind fun place =>
      if place.statement.role = .openBlock then some (newHome place.front) else none

/-- Content belongs to the open block, or to none. -/
def properHome? (front : List Statement) : Option Home :=
  some ((openBlock? front).getD .standalone)

/-- The last of so many blocks. -/
def newest? (inside : Bool) : Nat → Option Home
  | 0 => none
  | older + 1 => some (blockHome inside older)

/-- Where content is put.  It is lost where there is no block to take it. -/
def givenHome? (front : List Statement) : Option Home :=
  if insideGroup front || (openBlock? front).isSome then
    newest? (insideGroup front) (blocksOpened (insideGroup front) front)
  else some .standalone

/-- The home of a statement; `content?` tells that of content. -/
def home? (content? : List Statement → Option Home) (place : Place) : Option Home :=
  match place.statement.role with
  | .openBlock => some (newHome place.front)
  | .constraint => some .constraints
  | .content => content? place.front
  | _ => none

/-- The statements that are at home in one place. -/
def residents (content? : List Statement → Option Home) (statements : List Statement)
    (home : Home) : List Statement :=
  ((places statements).filter fun place => home? content? place = some home).map (·.statement)

/-- The blocks that are opened inside the group, or outside it, with those at home there. -/
def blocks (content? : List Statement → Option Home) (inside : Bool)
    (statements : List Statement) : List Block :=
  (List.range (blocksOpened inside statements)).map fun number =>
    residents content? statements (blockHome inside number)

/-- Every statement is where it is at home, and nowhere else, and each list keeps the order
of the text. -/
structure Files (content? : List Statement → Option Home) (statements : List Statement)
    (outline : Outline) : Prop where
  controls : outline.controls = blocks content? false statements
  installables : outline.installables = blocks content? true statements
  constraints : outline.constraints = residents content? statements .constraints
  standalone : outline.standalone = residents content? statements .standalone

/-- Where content stands, the group is open just if a block of it is. -/
def IsNested (statements : List Statement) : Prop :=
  ∀ place ∈ places statements, place.statement.role = .content →
    insideGroup place.front = (openBlock? place.front).any Home.isInstallable

instance (statements : List Statement) : Decidable (IsNested statements) :=
  inferInstanceAs (Decidable (∀ place ∈ places statements, place.statement.role = .content →
    insideGroup place.front = (openBlock? place.front).any Home.isInstallable))

section Before

variable {content? : List Statement → Option Home} {front statements : List Statement}
  {statement : Statement} {home : Home} {place : Place} {inside : Bool} {number : Nat}

theorem places_go_concat (before : List Statement) :
    places.go before (front ++ [statement]) =
      places.go before front ++ [⟨before ++ front, statement⟩] := by
  induction front generalizing before with
  | nil => simp [places.go]
  | cons first rest ih => simp [places.go, ih]

theorem places_concat :
    places (front ++ [statement]) = places front ++ [⟨front, statement⟩] := by
  rw [places, places_go_concat, List.nil_append]
  rfl

theorem map_statement_places (statements : List Statement) :
    (places statements).map Place.statement = statements := by
  induction statements using List.reverseRecOn with
  | nil => rfl
  | append_singleton front statement ih => rw [places_concat, List.map_append, ih]; rfl

theorem residents_subset (content? : List Statement → Option Home) (statements : List Statement)
    (home : Home) : residents content? statements home ⊆ statements := by
  conv_rhs => rw [← map_statement_places statements]
  exact List.map_subset _ List.filter_sublist.subset

theorem insideGroup_concat : insideGroup (front ++ [statement]) =
    match statement.role with
    | .openInstallables => true
    | .closeInstallables => false
    | _ => insideGroup front := by
  rw [insideGroup, List.reverse_append, List.reverse_singleton, List.singleton_append,
    List.find?_cons]
  cases role : statement.role <;> simp [insideGroup, role]

theorem openBlock?_concat : openBlock? (front ++ [statement]) =
    match statement.role with
    | .openBlock => some (newHome front)
    | .closeBlock => none
    | _ => openBlock? front := by
  rw [openBlock?, places_concat, List.reverse_append, List.reverse_singleton,
    List.singleton_append, List.find?_cons]
  cases role : statement.role <;> simp [openBlock?, role]

theorem blocksOpened_concat (inside : Bool) :
    blocksOpened inside (front ++ [statement]) = blocksOpened inside front +
      if statement.role = .openBlock ∧ insideGroup front = inside then 1 else 0 := by
  rw [blocksOpened, places_concat, List.countP_append, List.countP_singleton]
  simp [blocksOpened]

theorem residents_concat (home : Home) :
    residents content? (front ++ [statement]) home = residents content? front home ++
      if home? content? ⟨front, statement⟩ = some home then [statement] else [] := by
  rw [residents, places_concat, List.filter_append, List.map_append, ← residents]
  split
  · rename_i resides
    simp [resides]
  · rename_i elsewhere
    simp [elsewhere]

theorem blockHome_inj {other : Bool} {count : Nat} :
    blockHome inside number = blockHome other count ↔ inside = other ∧ number = count := by
  cases inside <;> cases other <;> simp [blockHome]

theorem newest?_eq_iff {other : Bool} {count : Nat} :
    newest? inside count = some (blockHome other number) ↔ inside = other ∧ number + 1 = count := by
  cases count <;> simp [newest?, blockHome_inj, eq_comm]

/-- No block has a number that is not given yet. -/
theorem number_lt (resides : place ∈ places front)
    (atHome : home? givenHome? place = some (blockHome inside number)) :
    number < blocksOpened inside front := by
  -- From the end, since what a statement is given depends on all that stands before it.
  induction front using List.reverseRecOn with
  | nil => contradiction
  | append_singleton front statement ih =>
      rw [places_concat, List.mem_append, List.mem_singleton] at resides
      rw [blocksOpened_concat]
      rcases resides with earlier | rfl
      · exact Nat.lt_add_right _ (ih earlier)
      · unfold home? at atHome
        split at atHome
        · rename_i opens
          obtain ⟨rfl, rfl⟩ := blockHome_inj.mp (Option.some.inj atHome)
          simp only at opens
          simp [opens]
        · cases inside <;> simp [blockHome] at atHome
        · unfold givenHome? at atHome
          split at atHome
          · obtain ⟨rfl, last⟩ := newest?_eq_iff.mp atHome
            exact Nat.lt_add_right _ (Nat.lt_of_succ_le (Nat.le_of_eq last))
          · cases inside <;> simp [blockHome] at atHome
        · contradiction

theorem residents_fresh (inside : Bool) (front : List Statement) :
    residents givenHome? front (blockHome inside (blocksOpened inside front)) = [] := by
  rw [residents, List.map_eq_nil_iff, List.filter_eq_nil_iff]
  intro place member resides
  exact Nat.lt_irrefl _ (number_lt member (of_decide_eq_true resides))

/-- A statement that is at home elsewhere leaves the blocks as they are. -/
theorem blocks_elsewhere
    (elsewhere : ∀ number, home? content? ⟨front, statement⟩ ≠ some (blockHome inside number)) :
    blocks content? inside (front ++ [statement]) = blocks content? inside front := by
  have same : blocksOpened inside (front ++ [statement]) = blocksOpened inside front := by
    rw [blocksOpened_concat, if_neg, Nat.add_zero]
    rintro ⟨opens, rfl⟩
    exact elsewhere _ (by rw [home?, opens, newHome])
  rw [blocks, blocks, same]
  refine List.map_congr_left fun number _ => ?_
  rw [residents_concat, if_neg (elsewhere number), List.append_nil]

theorem blocks_opened (opens : statement.role = .openBlock) (inside : Bool) :
    blocks givenHome? inside (front ++ [statement]) = blocks givenHome? inside front ++
      if insideGroup front = inside then [[statement]] else [] := by
  have new : home? givenHome? ⟨front, statement⟩ = some (newHome front) := by rw [home?, opens]
  split
  · rename_i here
    subst here
    have count : blocksOpened (insideGroup front) (front ++ [statement]) =
        blocksOpened (insideGroup front) front + 1 := by
      rw [blocksOpened_concat, if_pos ⟨opens, rfl⟩]
    rw [blocks, count, List.range_succ, List.map_append, List.map_singleton, residents_concat,
      residents_fresh, new, newHome, if_pos rfl, blocks]
    refine congrArg (· ++ _) (List.map_congr_left fun number before => ?_)
    have apart : blockHome (insideGroup front) (blocksOpened (insideGroup front) front) ≠
        blockHome (insideGroup front) number := by
      rw [ne_eq, blockHome_inj]
      rintro ⟨-, rfl⟩
      exact absurd (List.mem_range.mp before) (Nat.lt_irrefl _)
    rw [residents_concat, new, newHome, if_neg (by simpa using apart), List.append_nil]
  · rename_i there
    rw [List.append_nil]
    refine blocks_elsewhere fun number => ?_
    rw [new, newHome, ne_eq, Option.some.injEq, blockHome_inj]
    exact fun same => there same.1

/-- Content that is put into the newest block of a list. -/
theorem inOrder_addToNewest {older : List Block} (content : statement.role = .content)
    (taken : givenHome? front = newest? inside (blocksOpened inside front))
    (same : inOrder older = blocks givenHome? inside front) :
    inOrder (addToNewest statement older) = blocks givenHome? inside (front ++ [statement]) := by
  have count : blocksOpened inside (front ++ [statement]) = blocksOpened inside front := by
    simp [blocksOpened_concat, content]
  have home : home? givenHome? ⟨front, statement⟩ =
      newest? inside (blocksOpened inside front) := by
    rw [home?, content, taken]
  rw [blocks] at same
  rw [blocks, count]
  cases last : blocksOpened inside front with
  | zero =>
      have none : older = [] := by simpa [last, inOrder] using same
      rw [none]
      rfl
  | succ number =>
      rw [last, List.range_succ, List.map_append, List.map_singleton] at same
      -- The newest block grows by the statement, and those before it stay as they are.
      cases older with
      | nil => simp [inOrder] at same
      | cons block older =>
          have split : inOrder (block :: older) = inOrder older ++ [block.reverse] := by
            simp [inOrder]
          rw [split] at same
          obtain ⟨before, newest⟩ := List.append_inj' same rfl
          have whole : inOrder ((statement :: block) :: older) =
              inOrder older ++ [block.reverse ++ [statement]] := by
            simp [inOrder]
          rw [addToNewest, whole, before, List.singleton_inj.mp newest, List.range_succ,
            List.map_append, List.map_singleton, residents_concat (blockHome inside number), home,
            last, if_pos (newest?_eq_iff.mpr ⟨rfl, rfl⟩)]
          refine congrArg (· ++ _) (List.map_congr_left fun earlier among => ?_)
          have apart : newest? inside (number + 1) ≠ some (blockHome inside earlier) := by
            rw [ne_eq, newest?_eq_iff]
            have := List.mem_range.mp among
            omega
          rw [residents_concat, home, last, if_neg apart, List.append_nil]

/-- A reading position says of what was read what its places say. -/
structure Cursor.Reflects (cursor : Cursor) (front : List Statement) : Prop where
  insideInstallables : cursor.insideInstallables = insideGroup front
  insideBlock : cursor.insideBlock = (openBlock? front).isSome
  controls : inOrder cursor.controls = blocks givenHome? false front
  installables : inOrder cursor.installables = blocks givenHome? true front
  constraints : cursor.constraints.reverse = residents givenHome? front .constraints
  standalone : cursor.standalone.reverse = residents givenHome? front .standalone

theorem Cursor.reflects_start : Cursor.start.Reflects [] :=
  ⟨rfl, rfl, rfl, rfl, rfl, rfl⟩

theorem residents_elsewhere (elsewhere : home? content? ⟨front, statement⟩ ≠ some home) :
    residents content? (front ++ [statement]) home = residents content? front home := by
  rw [residents_concat, if_neg elsewhere, List.append_nil]

theorem residents_added (here : home? content? ⟨front, statement⟩ = some home) :
    residents content? (front ++ [statement]) home =
      residents content? front home ++ [statement] := by
  rw [residents_concat, if_pos here]

theorem blockHome_ne (inside : Bool) (number : Nat) :
    blockHome inside number ≠ .constraints ∧ blockHome inside number ≠ .standalone := by
  cases inside <;> simp [blockHome]

/-- Content in a block of one list is not in the other lists. -/
theorem residents_beside {count : Nat} (content : statement.role = .content)
    (given : givenHome? front = newest? inside count)
    (apart : ∀ number, blockHome inside number ≠ home) :
    residents givenHome? (front ++ [statement]) home = residents givenHome? front home := by
  apply residents_elsewhere
  rw [home?, content]
  simp only [given]
  cases count <;> simp [newest?, apart]

theorem blocks_beside {count : Nat} {other : Bool} (content : statement.role = .content)
    (given : givenHome? front = newest? inside count) (apart : inside ≠ other) :
    blocks givenHome? other (front ++ [statement]) = blocks givenHome? other front := by
  apply blocks_elsewhere
  intro number
  rw [home?, content]
  simp only [given, ne_eq, newest?_eq_iff, apart, false_and, not_false_eq_true]

namespace Cursor.Reflects

variable {cursor : Cursor} (reflects : cursor.Reflects front)

include reflects

theorem opens (opens : statement.role = .openBlock) :
    (cursor.next statement).Reflects (front ++ [statement]) := by
  have home : home? givenHome? ⟨front, statement⟩ = some (newHome front) := by rw [home?, opens]
  have constraints : residents givenHome? (front ++ [statement]) .constraints =
      residents givenHome? front .constraints :=
    residents_elsewhere (by simp [home, newHome, blockHome_ne])
  have standalone : residents givenHome? (front ++ [statement]) .standalone =
      residents givenHome? front .standalone :=
    residents_elsewhere (by simp [home, newHome, blockHome_ne])
  have group : insideGroup (front ++ [statement]) = insideGroup front := by
    simp [insideGroup_concat, opens]
  have block : openBlock? (front ++ [statement]) = some (newHome front) := by
    simp [openBlock?_concat, opens]
  rw [Cursor.next, opens]
  simp only
  split
  · rename_i inside
    rw [reflects.insideInstallables] at inside
    refine ⟨reflects.insideInstallables.trans group.symm, by simp [block], ?_, ?_,
      reflects.constraints.trans constraints.symm, reflects.standalone.trans standalone.symm⟩
    · simpa [blocks_opened opens, inside] using reflects.controls
    · simp [blocks_opened opens, inside, ← reflects.installables, inOrder]
  · rename_i outside
    rw [reflects.insideInstallables, Bool.not_eq_true] at outside
    refine ⟨reflects.insideInstallables.trans group.symm, by simp [block], ?_, ?_,
      reflects.constraints.trans constraints.symm, reflects.standalone.trans standalone.symm⟩
    · simp [blocks_opened opens, outside, ← reflects.controls, inOrder]
    · simpa [blocks_opened opens, outside] using reflects.installables

/-- A statement without a home changes nothing but what is open. -/
theorem marks {block group : Bool} (homeless : home? givenHome? ⟨front, statement⟩ = none)
    (insideGroup_eq : insideGroup (front ++ [statement]) = group)
    (openBlock_eq : (openBlock? (front ++ [statement])).isSome = block) :
    Reflects { cursor with insideBlock := block, insideInstallables := group }
      (front ++ [statement]) where
  insideInstallables := insideGroup_eq.symm
  insideBlock := openBlock_eq.symm
  controls := by rw [blocks_elsewhere (by simp [homeless]), ← reflects.controls]
  installables := by rw [blocks_elsewhere (by simp [homeless]), ← reflects.installables]
  constraints := by rw [residents_elsewhere (by simp [homeless]), ← reflects.constraints]
  standalone := by rw [residents_elsewhere (by simp [homeless]), ← reflects.standalone]

theorem limits (limits : statement.role = .constraint) :
    (cursor.next statement).Reflects (front ++ [statement]) := by
  have home : home? givenHome? ⟨front, statement⟩ = some .constraints := by rw [home?, limits]
  have elsewhere (inside : Bool) (number : Nat) :
      home? givenHome? ⟨front, statement⟩ ≠ some (blockHome inside number) := by
    simp [home, (blockHome_ne inside number).1.symm]
  rw [Cursor.next, limits]
  refine ⟨?_, ?_, ?_, ?_, ?_, ?_⟩
  · simp [insideGroup_concat, limits, reflects.insideInstallables]
  · simp [openBlock?_concat, limits, reflects.insideBlock]
  · rw [blocks_elsewhere (elsewhere false), ← reflects.controls]
  · rw [blocks_elsewhere (elsewhere true), ← reflects.installables]
  · rw [residents_added home, ← reflects.constraints, List.reverse_cons]
  · rw [residents_elsewhere (by simp [home]), ← reflects.standalone]

theorem adds (content : statement.role = .content) :
    (cursor.next statement).Reflects (front ++ [statement]) := by
  have group : cursor.insideInstallables = insideGroup (front ++ [statement]) := by
    simp [insideGroup_concat, content, reflects.insideInstallables]
  have block : cursor.insideBlock = (openBlock? (front ++ [statement])).isSome := by
    simp [openBlock?_concat, content, reflects.insideBlock]
  rw [Cursor.next, content]
  simp only
  split
  · rename_i inside
    have given : givenHome? front = newest? true (blocksOpened true front) := by
      simp [givenHome?, ← reflects.insideInstallables, inside]
    exact ⟨group, block,
      reflects.controls.trans (blocks_beside content given (by simp)).symm,
      inOrder_addToNewest content given reflects.installables,
      reflects.constraints.trans (residents_beside content given (by simp [blockHome])).symm,
      reflects.standalone.trans (residents_beside content given (by simp [blockHome])).symm⟩
  · rename_i outside
    split
    · rename_i inBlock
      have given : givenHome? front = newest? false (blocksOpened false front) := by
        simp [givenHome?, ← reflects.insideInstallables, outside, ← reflects.insideBlock, inBlock]
      exact ⟨group, block, inOrder_addToNewest content given reflects.controls,
        reflects.installables.trans (blocks_beside content given (by simp)).symm,
        reflects.constraints.trans (residents_beside content given (by simp [blockHome])).symm,
        reflects.standalone.trans (residents_beside content given (by simp [blockHome])).symm⟩
    · rename_i alone
      have home : home? givenHome? ⟨front, statement⟩ = some .standalone := by
        simp [home?, content, givenHome?, ← reflects.insideInstallables, outside,
          ← reflects.insideBlock, alone]
      refine ⟨group, block, ?_, ?_, ?_, ?_⟩
      · rw [blocks_elsewhere (by simp [home, blockHome]), ← reflects.controls]
      · rw [blocks_elsewhere (by simp [home, blockHome]), ← reflects.installables]
      · rw [residents_elsewhere (by simp [home]), ← reflects.constraints]
      · rw [residents_added home, ← reflects.standalone, List.reverse_cons]

theorem next (statement : Statement) :
    (cursor.next statement).Reflects (front ++ [statement]) := by
  cases role : statement.role with
  | openBlock => exact reflects.opens role
  | constraint => exact reflects.limits role
  | content => exact reflects.adds role
  | closeBlock =>
      rw [Cursor.next, role]
      refine reflects.marks (by rw [home?, role]) ?_ ?_
      · simp [insideGroup_concat, role, reflects.insideInstallables]
      · simp [openBlock?_concat, role]
  | openInstallables =>
      rw [Cursor.next, role]
      refine reflects.marks (by rw [home?, role]) ?_ ?_
      · simp [insideGroup_concat, role]
      · simp [openBlock?_concat, role, reflects.insideBlock]
  | closeInstallables =>
      rw [Cursor.next, role]
      refine reflects.marks (by rw [home?, role]) ?_ ?_
      · simp [insideGroup_concat, role]
      · simp [openBlock?_concat, role, reflects.insideBlock]
  | ignored =>
      rw [Cursor.next, role]
      refine reflects.marks (by rw [home?, role]) ?_ ?_
      · simp [insideGroup_concat, role, reflects.insideInstallables]
      · simp [openBlock?_concat, role, reflects.insideBlock]

end Cursor.Reflects

theorem Cursor.reflects_foldl (statements : List Statement) :
    (statements.foldl next start).Reflects statements := by
  induction statements using List.reverseRecOn with
  | nil => exact reflects_start
  | append_singleton front statement ih =>
      rw [List.foldl_append, List.foldl_cons, List.foldl_nil]
      exact ih.next statement

/-- The open block is the newest one of its list. -/
theorem blocksOpened_of_openBlock? (found : openBlock? front = some home) :
    ∃ inside number, home = blockHome inside number ∧ blocksOpened inside front = number + 1 := by
  induction front using List.reverseRecOn with
  | nil => contradiction
  | append_singleton front statement ih =>
      rw [openBlock?_concat] at found
      split at found
      · rename_i opens
        refine ⟨_, _, (Option.some.inj found).symm, ?_⟩
        rw [blocksOpened_concat, if_pos ⟨opens, rfl⟩]
      · contradiction
      · rename_i notOpening _
        obtain ⟨inside, number, same, count⟩ := ih found
        refine ⟨inside, number, same, ?_⟩
        rw [blocksOpened_concat, if_neg fun opening => notOpening opening.1, count]

/-- Content is put where it belongs if the group is open just while a block of it is. -/
theorem givenHome?_eq_properHome?
    (fits : insideGroup front = (openBlock? front).any Home.isInstallable) :
    givenHome? front = properHome? front := by
  rw [givenHome?, properHome?, fits]
  cases found : openBlock? front with
  | none => simp
  | some home =>
      obtain ⟨inside, number, rfl, count⟩ := blocksOpened_of_openBlock? found
      have group : (blockHome inside number).isInstallable = inside := by
        cases inside <;> rfl
      simp [group, count, newest?]

end Before

theorem residents_congr {first second : List Statement → Option Home} {statements : List Statement}
    (same : ∀ place ∈ places statements, home? first place = home? second place) (home : Home) :
    residents first statements home = residents second statements home := by
  rw [residents, residents]
  refine congrArg (List.map _) (List.filter_congr fun place member => ?_)
  rw [same place member]

theorem Files.congr {first second : List Statement → Option Home} {statements : List Statement}
    {outline : Outline} (files : outline.Files first statements)
    (same : ∀ place ∈ places statements, home? first place = home? second place) :
    outline.Files second statements := by
  have residents := residents_congr same
  have blocks (inside : Bool) : blocks first inside statements = blocks second inside statements :=
    List.map_congr_left fun number _ => residents (blockHome inside number)
  exact ⟨files.controls.trans (blocks false), files.installables.trans (blocks true),
    files.constraints.trans (residents _), files.standalone.trans (residents _)⟩

/-- Whatever the statements, an outline has none of them twice, and each one that it has
where it was put.  All of them are where they belong if content stands in the group
only in blocks of it, and in those only in the group. -/
theorem ofStatements_files (statements : List Statement) :
    (ofStatements statements).Files givenHome? statements ∧
      (IsNested statements → (ofStatements statements).Files properHome? statements) := by
  obtain ⟨-, -, controls, installables, constraints, standalone⟩ :=
    Cursor.reflects_foldl statements
  have files : (ofStatements statements).Files givenHome? statements :=
    ⟨controls, installables, constraints, standalone⟩
  refine ⟨files, fun nested => files.congr fun place member => ?_⟩
  unfold home?
  split
  · rfl
  · rfl
  · rename_i content
    exact givenHome?_eq_properHome? (nested place member content)
  · rfl

/-- A control behind the group of installable hardware with its block, and content
outside of both. -/
def unitAndDuplex : List Statement :=
  [⟨"Manufacturer", "", "", "HP"⟩, ⟨"OpenGroup", "", "", "InstallableOptions/Installed"⟩,
    ⟨"OpenUI", "*Unit", "Duplex Unit", "Boolean"⟩, ⟨"DefaultUnit", "", "", "False"⟩,
    ⟨"CloseUI", "", "", "*Unit"⟩, ⟨"CloseGroup", "", "", "InstallableOptions"⟩,
    ⟨"JCLOpenUI", "*Duplex", "", "PickOne"⟩, ⟨"Duplex", "None", "Off", ""⟩,
    ⟨"UIConstraints", "", "", "*Unit False *Duplex Long"⟩, ⟨"Duplex", "Long", "", ""⟩,
    ⟨"JCLCloseUI", "", "", "*Duplex"⟩, ⟨"Throughput", "", "", "20"⟩]

theorem unitAndDuplex_files : IsNested unitAndDuplex ∧
    (ofStatements unitAndDuplex).Files properHome? unitAndDuplex := by
  have nested : IsNested unitAndDuplex := by decide +kernel
  exact ⟨nested, (ofStatements_files unitAndDuplex).2 nested⟩

/-- Content in the group, before its only block and behind it. -/
def strayContent : List Statement :=
  [⟨"OpenGroup", "", "", "InstallableOptions/Installed"⟩, ⟨"FreeVM", "", "", "1000"⟩,
    ⟨"OpenUI", "*Unit", "Duplex Unit", "Boolean"⟩, ⟨"DefaultUnit", "", "", "False"⟩,
    ⟨"CloseUI", "", "", "*Unit"⟩, ⟨"Throughput", "", "", "20"⟩,
    ⟨"CloseGroup", "", "", "InstallableOptions"⟩]

/-- The first is lost, and the second is in the block that is closed. -/
theorem strayContent_misplaced :
    ofStatements strayContent =
        ⟨[], [[⟨"OpenUI", "*Unit", "Duplex Unit", "Boolean"⟩, ⟨"DefaultUnit", "", "", "False"⟩,
          ⟨"Throughput", "", "", "20"⟩]], [], []⟩ ∧
      residents properHome? strayContent .standalone =
        [⟨"FreeVM", "", "", "1000"⟩, ⟨"Throughput", "", "", "20"⟩] ∧
      ¬ (ofStatements strayContent).Files properHome? strayContent :=
  ⟨by decide +kernel, by decide +kernel, fun files => absurd files.standalone (by decide +kernel)⟩

end Outline

end PrintConnector.Ppd
