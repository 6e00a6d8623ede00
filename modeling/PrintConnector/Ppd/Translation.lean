import PrintConnector.Ppd.Constraint
import PrintConnector.Ppd.Control
import PrintConnector.Ppd.Name.Manufacturer
import PrintConnector.Ppd.Name.Model
import PrintConnector.Ppd.Section.Color
import PrintConnector.Ppd.Section.Duplex
import PrintConnector.Ppd.Section.Dpi
import PrintConnector.Ppd.Section.Margins
import PrintConnector.Ppd.Section.MediaSize
import PrintConnector.Ppd.Section.Speed
import PrintConnector.Ppd.Section.VendorCapability

/-! From the text of a printer description to a device description.

Nothing in a description is an error.  What cannot be read is a section that is
not there.
-/

namespace PrintConnector.Ppd

open PrintConnector.Device

/-- What a description tells about a printer.  A name it does not give is
empty. -/
structure Translation where
  printer : Printer
  manufacturer : String
  model : String
deriving DecidableEq, Repr

/-- The sections that controls give. -/
def Controls.printer (controls : Controls) : Printer :=
  let password? := do
    lockedPrintPassword? (← controls.find? "JobType") (← controls.find? "LockedPrintPassword")
  let vendor := [
    (controls.find? "OutputBin").bind vendorCapability?,
    password?,
    (controls.findTranslated? "Print Quality").bind vendorCapability?].filterMap id
  { mediaSize := (controls.find? "PageSize").bind mediaSize?
    color := (controls.findFirst? ["ColorModel", "CMAndResolution", "SelectColor"]).bind color?
    duplex := (controls.findFirst? ["Duplex", "KMDuplex"]).bind duplex?
    dpi := (controls.find? "Resolution").bind dpi?
    vendorCapabilities := if vendor.isEmpty then none else some vendor }

namespace Translation

/-- Takes a statement outside all blocks.  A later one takes the place of an
earlier one, also when it gives nothing. -/
def withStandalone (translation : Translation) (statement : Statement) : Translation :=
  let printer := translation.printer
  if statement.keyword = "Manufacturer" then
    { translation with manufacturer := statement.value }
  else if statement.keyword = "NickName" then
    { translation with model := cleanModel statement.value }
  else if statement.keyword = "HWMargins" then
    { translation with printer := { printer with margins := margins? statement.value } }
  else if statement.keyword = "Throughput" then
    { translation with
      printer := { printer with printingSpeed := printingSpeed? statement.value printer.color } }
  else translation

/-- Shows the manufacturer's name and takes it off the model's, as written and as
shown. -/
def withShownNames (translation : Translation) : Translation :=
  let shown := shownManufacturer translation.manufacturer
  let model := withoutManufacturer translation.model translation.manufacturer
  { translation with
    manufacturer := shown
    model := if shown = translation.manufacturer then model else withoutManufacturer model shown }

/-- The translation of an outline. -/
def ofOutline (outline : Outline) : Translation :=
  let printer := (Controls.ofBlocks outline.permitted).printer
  (outline.standalone.foldl withStandalone ⟨printer, "", ""⟩).withShownNames

/-- The translation of a description. -/
def ofText (text : String) : Translation :=
  ofOutline (.ofStatements (Statement.parseAll text))

end Translation

end PrintConnector.Ppd
