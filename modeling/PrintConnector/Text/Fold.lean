/-! Comparing letters without regard to case.

Patterns compare under simple Unicode case folding.  Every pattern of this
library is made of ASCII letters, and the only characters outside ASCII that
fold into them are KELVIN SIGN (to `k`) and LATIN SMALL LETTER LONG S (to `s`).
-/

namespace PrintConnector.Text

/-- The lower-case ASCII letter that a character folds to, or the character
itself. -/
def fold (c : Char) : Char :=
  if c.toNat = 0x212A then 'k'
  else if c.toNat = 0x17F then 's'
  else c.toLower

/-- `word` stands at the head of the text up to case; what follows it. -/
def afterFolded? : List Char → List Char → Option (List Char)
  | [], text => some text
  | _ :: _, [] => none
  | w :: word, c :: text => if fold c = w then afterFolded? word text else none

/-- The text starts with `word`, up to case. -/
def startsFolded (word text : List Char) : Bool :=
  (afterFolded? word text).isSome

/-- The text after a literal head. -/
def after? : List Char → List Char → Option (List Char)
  | [], text => some text
  | _ :: _, [] => none
  | w :: word, c :: text => if c = w then after? word text else none

/-- ASCII strings compared without regard to case. -/
def sameFolded (left right : String) : Bool :=
  left.toList.map Char.toLower == right.toList.map Char.toLower

/-- `word` stands somewhere in a text. -/
def occurs (word : List Char) : List Char → Bool
  | [] => word.isEmpty
  | c :: rest => (after? word (c :: rest)).isSome || occurs word rest

theorem after?_eq_some_iff {word text rest : List Char} :
    after? word text = some rest ↔ text = word ++ rest := by
  induction word generalizing text with
  | nil => simp [after?, eq_comm]
  | cons w word ih =>
      cases text with
      | nil => simp [after?]
      | cons c text =>
          by_cases same : c = w
          · simp [after?, same, ih]
          · simp [after?, same]

end PrintConnector.Text
