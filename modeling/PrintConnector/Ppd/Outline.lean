import PrintConnector.Ppd.Statement
import PrintConnector.Text.Fold

/-! The outline of a description: its statements by where they stand.

A block opens a control for the user and lists its choices.  Blocks inside the
group of installable options describe hardware that may be there; all other
groups are read as if they were not.  A constraint rules a choice out when the
hardware it names is installed.
-/

namespace PrintConnector.Ppd

open PrintConnector.Text

/-- A block: its opening statement and those inside it. -/
abbrev Block := List Statement

/-- Statements by where they stand, each list in the order of the text. -/
structure Outline where
  /-- Blocks of controls for the user. -/
  controls : List Block
  /-- Blocks that describe installable hardware. -/
  installables : List Block
  constraints : List Statement
  /-- Statements outside all blocks. -/
  standalone : List Statement
deriving DecidableEq, Repr

/-- What a statement does to the structure. -/
inductive Role where
  | openBlock
  | closeBlock
  | openInstallables
  | closeInstallables
  | constraint
  /-- Opens or closes a group without a meaning here. -/
  | ignored
  | content
deriving DecidableEq, Repr

/-- The group of installable options is told by the head of its name. -/
def Statement.namesInstallables (statement : Statement) : Bool :=
  (after? "InstallableOptions".toList statement.value.toList).isSome

def Statement.role (statement : Statement) : Role :=
  if statement.keyword = "OpenUI" || statement.keyword = "JCLOpenUI" then .openBlock
  else if statement.keyword = "CloseUI" || statement.keyword = "JCLCloseUI" then .closeBlock
  else if statement.keyword = "OpenGroup" then
    if statement.namesInstallables then .openInstallables else .ignored
  else if statement.keyword = "CloseGroup" then
    if statement.namesInstallables then .closeInstallables else .ignored
  else if statement.keyword = "OpenSubGroup" || statement.keyword = "CloseSubGroup" then .ignored
  else if statement.keyword = "UIConstraints" then .constraint
  else .content

namespace Outline

/-- A reading position: what was sorted so far, every list and every block with
its last statement first, and what is open. -/
structure Cursor where
  controls : List Block
  installables : List Block
  constraints : List Statement
  standalone : List Statement
  insideBlock : Bool
  insideInstallables : Bool

def Cursor.start : Cursor := ⟨[], [], [], [], false, false⟩

/-- Adds a statement to the newest block.  Where there is no block it is lost. -/
def addToNewest (statement : Statement) : List Block → List Block
  | [] => []
  | block :: older => (statement :: block) :: older

/-- Takes the next statement. -/
def Cursor.next (cursor : Cursor) (statement : Statement) : Cursor :=
  match statement.role with
  | .openBlock =>
      if cursor.insideInstallables then
        { cursor with insideBlock := true, installables := [statement] :: cursor.installables }
      else { cursor with insideBlock := true, controls := [statement] :: cursor.controls }
  | .closeBlock => { cursor with insideBlock := false }
  | .openInstallables => { cursor with insideInstallables := true }
  | .closeInstallables => { cursor with insideInstallables := false }
  | .constraint => { cursor with constraints := statement :: cursor.constraints }
  | .ignored => cursor
  | .content =>
      if cursor.insideInstallables then
        { cursor with installables := addToNewest statement cursor.installables }
      else if cursor.insideBlock then
        { cursor with controls := addToNewest statement cursor.controls }
      else { cursor with standalone := statement :: cursor.standalone }

/-- Blocks kept last first, in the order of the text. -/
def inOrder (blocks : List Block) : List Block :=
  blocks.reverse.map List.reverse

/-- The outline of what was read. -/
def Cursor.finish (cursor : Cursor) : Outline :=
  ⟨inOrder cursor.controls, inOrder cursor.installables, cursor.constraints.reverse,
    cursor.standalone.reverse⟩

/-- The outline of a description's statements. -/
def ofStatements (statements : List Statement) : Outline :=
  (statements.foldl Cursor.next Cursor.start).finish

end Outline

end PrintConnector.Ppd
