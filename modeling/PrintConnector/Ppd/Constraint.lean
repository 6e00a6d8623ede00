import PrintConnector.Ppd.Outline

/-! Constraints: choices that installed hardware rules out.

The constraint `*A a *B b` says that where `a` is the installed value of `A`,
choice `b` of control `B` is forbidden.  What is installed is what the blocks
of installable hardware declare as their defaults.
-/

namespace PrintConnector.Ppd

open PrintConnector.Text

/-- Where `value` of `hardware` is installed, `choice` of `control` is
forbidden. -/
structure Constraint where
  hardware : String
  value : String
  control : String
  choice : String
deriving DecidableEq, Repr

/-- A keyword with its star; the keyword is not empty and holds no other star. -/
def starred? : List Char → Option (List Char)
  | '*' :: keyword => if keyword.isEmpty || keyword.contains '*' then none else some keyword
  | _ => none

/-- A constraint is four words, the first and third starred, with nothing
before or after them. -/
def Constraint.parse? (text : List Char) : Option Constraint :=
  if trim text ≠ text then none
  else match words text with
    | [hardware, value, control, choice] => do
        let hardware ← starred? hardware
        let control ← starred? control
        some ⟨.ofList hardware, .ofList value, .ofList control, .ofList choice⟩
    | _ => none

namespace Outline

/-- The installed value that a statement declares: its keyword is `Default` and
the name of the hardware. -/
def installedValue? (statement : Statement) : Option (String × String) :=
  (after? "Default".toList statement.keyword.toList).map fun hardware =>
    (.ofList hardware, statement.value)

/-- Every value declared as installed. -/
def installed (outline : Outline) : List (String × String) :=
  outline.installables.flatten.filterMap installedValue?

/-- Every choice that an applicable constraint forbids, as control and choice. -/
def forbidden (outline : Outline) : List (String × String) :=
  let installed := outline.installed
  outline.constraints.filterMap fun statement => do
    let rule ← Constraint.parse? statement.value.toList
    if installed.contains (rule.hardware, rule.value) then some (rule.control, rule.choice)
    else none

/-- The blocks of controls without the choices that are forbidden. -/
def permitted (outline : Outline) : List Block :=
  let forbidden := outline.forbidden
  outline.controls.map fun block =>
    block.filter fun statement => !forbidden.contains (statement.keyword, statement.option)

end Outline

end PrintConnector.Ppd
