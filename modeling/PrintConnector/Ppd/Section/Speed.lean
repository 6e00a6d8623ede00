import PrintConnector.Device.Description
import PrintConnector.Number.Numeral
import PrintConnector.Text.Blank

namespace PrintConnector.Ppd

open PrintConnector.Device PrintConnector.Number PrintConnector.Text

/-- Each member once, where it occurs first. -/
def distinct {α : Type} [DecidableEq α] (items : List α) : List α :=
  items.foldl (fun seen item => if item ∈ seen then seen else seen ++ [item]) []

/-- The speed in pages per minute, with the colour types it holds for if there
are colour modes. -/
def printingSpeed? (text : String) (color : Option Color) : Option PrintingSpeed :=
  (int32? (trim text.toList)).map fun speed =>
    ⟨[{
      pagesPerMinute := Single.ofInt speed
      colorTypes := color.map fun color => distinct (color.options.map ColorOption.type) }]⟩

end PrintConnector.Ppd
