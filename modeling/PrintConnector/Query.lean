import PrintConnector.Error

namespace PrintConnector

/-- The attributes of a printer: names and what is shown for them. -/
abbrev Attributes : Type := List (String × String)

inductive Query where
  /-- The description of a printer, unless it is the one that the marker came
  with. -/
  | ppd (printer : String) (marker : Option String)
  | printers
  | attributes (printer : String)
deriving DecidableEq, Repr

/-- The answer to a query for a description.  `δ` is what stands for its
content. -/
inductive PpdReply (δ : Type) where
  | unchanged
  | document (content : δ) (marker : Option String)
deriving DecidableEq, Repr

inductive Reply (δ : Type) where
  | ppd (reply : PpdReply δ)
  | printers (printers : List Attributes)
  | attributes (attributes : Attributes)
deriving DecidableEq, Repr

end PrintConnector
