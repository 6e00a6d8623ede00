namespace PrintConnector

/-- Pairs of a number and what it stands for. -/
abbrev Roster (α : Type) : Type := List (Nat × α)

namespace Roster

variable {α : Type}

def entry? (roster : Roster α) (number : Nat) : Option α :=
  roster.lookup number

def has (roster : Roster α) (number : Nat) : Bool :=
  (roster.entry? number).isSome

/-- Adds something at the end. -/
def add (roster : Roster α) (number : Nat) (value : α) : Roster α :=
  roster ++ [(number, value)]

/-- Puts something else in the place of what a number stands for. -/
def update (roster : Roster α) (number : Nat) (value : α) : Roster α :=
  roster.map fun entry => if entry.1 = number then (number, value) else entry

def remove (roster : Roster α) (number : Nat) : Roster α :=
  roster.filter fun entry => entry.1 ≠ number

end Roster

end PrintConnector
