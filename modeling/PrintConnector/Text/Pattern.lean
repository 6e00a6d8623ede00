/-! Patterns: sets of texts built from characters, sequence, choice and
repetition.

A pattern is matched against a whole text.  After each character it turns into
the pattern of what may follow that character; the text matches if the empty
text fits what is left at its end.
-/

namespace PrintConnector.Text

inductive Pattern where
  /-- No text. -/
  | never
  /-- The empty text. -/
  | nothing
  /-- One character of a class. -/
  | one (accepts : Char → Bool)
  | seq (first second : Pattern)
  | choice (left right : Pattern)
  /-- Any number of texts of a pattern, one after the other. -/
  | star (item : Pattern)

namespace Pattern

/-- The texts of a pattern. -/
inductive Matches : Pattern → List Char → Prop where
  | nothing : Matches .nothing []
  | one {accepts : Char → Bool} {c : Char} (accepted : accepts c = true) :
      Matches (.one accepts) [c]
  | seq {first second : Pattern} {front back : List Char} (left : Matches first front)
      (right : Matches second back) : Matches (.seq first second) (front ++ back)
  | choiceLeft {left right : Pattern} {text : List Char} (matched : Matches left text) :
      Matches (.choice left right) text
  | choiceRight {left right : Pattern} {text : List Char} (matched : Matches right text) :
      Matches (.choice left right) text
  | starNil {item : Pattern} : Matches (.star item) []
  | starCons {item : Pattern} {front back : List Char} (first : Matches item front)
      (rest : Matches (.star item) back) : Matches (.star item) (front ++ back)

/-- The empty text is one of the pattern's. -/
def acceptsEmpty : Pattern → Bool
  | .never => false
  | .nothing => true
  | .one _ => false
  | .seq first second => first.acceptsEmpty && second.acceptsEmpty
  | .choice left right => left.acceptsEmpty || right.acceptsEmpty
  | .star _ => true

/-- `seq`, with the cases that nothing or no text decides taken out. -/
def andThen : Pattern → Pattern → Pattern
  | .never, _ => .never
  | .nothing, second => second
  | _, .never => .never
  | first, second => .seq first second

/-- `choice`, with the cases that no text decides taken out. -/
def orElse : Pattern → Pattern → Pattern
  | .never, right => right
  | left, .never => left
  | left, right => .choice left right

/-- What may follow a first character. -/
def after (c : Char) : Pattern → Pattern
  | .never => .never
  | .nothing => .never
  | .one accepts => if accepts c then .nothing else .never
  | .seq first second =>
      let through := (first.after c).andThen second
      if first.acceptsEmpty then through.orElse (second.after c) else through
  | .choice left right => (left.after c).orElse (right.after c)
  | .star item => (item.after c).andThen (.star item)

/-- The text is one of the pattern's. -/
def accepts (pattern : Pattern) (text : List Char) : Bool :=
  (text.foldl (fun pattern c => pattern.after c) pattern).acceptsEmpty

/-- A fixed text. -/
def literal (text : String) : Pattern :=
  text.toList.foldr (fun c rest => .seq (.one (· = c)) rest) .nothing

/-- One of several patterns. -/
def anyOf (patterns : List Pattern) : Pattern :=
  patterns.foldr .choice .never

/-- Several patterns in a row. -/
def inRow (patterns : List Pattern) : Pattern :=
  patterns.foldr .seq .nothing

/-- A pattern or nothing. -/
def maybe (pattern : Pattern) : Pattern :=
  .choice pattern .nothing

/-- At least one character of a class. -/
def run (accepts : Char → Bool) : Pattern :=
  .seq (.one accepts) (.star (.one accepts))

end Pattern

end PrintConnector.Text
