import PrintConnector.Text.Blank
import PrintConnector.Text.DecimalDigit
import PrintConnector.Text.Fold
import PrintConnector.Text.Pattern

/-! Names of models.

A model's name comes with notes on drivers and firmware behind it.  They are
taken off the end one at a time until none is left.
-/

namespace PrintConnector.Ppd

open PrintConnector.Text
open PrintConnector.Text.Pattern

def blanks : Pattern := run isBlank

def solid : Pattern := run fun c => !isBlank c

def decimals : Pattern := run isDecimalDigit

/-- Digits in groups, a point between two. -/
def dotted : Pattern :=
  .seq decimals (.star (.seq (literal ".") decimals))

/-- ASCII digits and points. -/
def dotsAndDigits : Pattern :=
  run fun c => c.isDigit || c = '.'

/-- A note behind a model's name: a page language, a driver, a sheet size or a
version. -/
def noteToken : Pattern := anyOf [
  inRow [maybe (literal "w/"), literal "PS", maybe (literal "2"), maybe (literal "3"),
    maybe (literal "(P)"), maybe (inRow [literal ",", blanks, dotsAndDigits])],
  inRow [literal "pcl", maybe (literal "3"),
    star (inRow [literal ",", blanks, decimals, literal ".", decimals])],
  literal "-",
  literal "PXL",
  literal "PDF",
  literal "cups-team",
  inRow [literal "CUPS+Gutenprint", blanks, literal "v", solid],
  inRow [maybe (literal "("), literal "recommended", maybe (literal ")")],
  inRow [anyOf [literal "A4", literal "Letter"], maybe (literal "+Duplex")],
  inRow [literal "Post", anyOf [literal "S", literal "s"], literal "cript"],
  inRow [literal "BR-Script", maybe (literal "2"), maybe (literal "3"), maybe (literal "J")],
  inRow [literal "v", dotsAndDigits],
  inRow [maybe (literal "("), literal "KPDL", maybe (literal "-2"), maybe (literal ")")],
  inRow [literal "Foomatic/", solid],
  inRow [literal "Epson Inkjet Printer Driver (ESC/P-R) for ", solid],
  inRow [anyOf [literal "hpcups", literal "hpijs", literal "HPLIP"], maybe (literal ","), blanks,
    dotted],
  literal "requires proprietary plugin"]

/-- The text is a blank, a note and nothing else but blanks. -/
def isNote : List Char → Bool
  | [] => false
  | c :: rest => isBlank c && noteToken.accepts (trim rest)

/-- The text up to its longest end that is a note; all of it without one. -/
def dropNote : List Char → List Char
  | [] => []
  | c :: rest => if isNote (c :: rest) then [] else c :: dropNote rest

/-- The text without `tail` at its end, once. -/
def dropTail (tail text : List Char) : List Char :=
  match after? tail.reverse text.reverse with
  | some front => front.reverse
  | none => text

/-- One round: a note, then a comma, then a bracketed page language. -/
def cleanOnce (text : List Char) : List Char :=
  dropTail ['(', 'P', 'S', ')'] (dropTail [','] (dropNote text))

/-- Rounds until one leaves the text as long as it was. -/
def cleanName (text : List Char) : List Char :=
  if (cleanOnce text).length < text.length then cleanName (cleanOnce text) else text
termination_by text.length

/-- A model's name without the notes behind it. -/
def cleanModel (model : String) : String :=
  .ofList (cleanName model.toList)

/-- A model's name without its manufacturer in front, and without the spaces
that this leaves there. -/
def withoutManufacturer (model manufacturer : String) : String :=
  let rest := (after? manufacturer.toList model.toList).getD model.toList
  .ofList (rest.dropWhile (· = ' '))

end PrintConnector.Ppd
