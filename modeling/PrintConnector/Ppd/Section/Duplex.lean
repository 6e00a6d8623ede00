import PrintConnector.Device.Description
import PrintConnector.Ppd.Control

namespace PrintConnector.Ppd

open PrintConnector.Device

/-- The mode that a keyword names.  Keywords beyond the usual ones are told by
the number of sides at their head. -/
def duplexType? (keyword : String) : Option DuplexType :=
  if keyword = "None" || keyword = "False" || keyword = "Single" then some .noDuplex
  else if keyword = "DuplexNoTumble" || keyword = "True" || keyword = "Double" then some .longEdge
  else if keyword = "DuplexTumble" || keyword = "Booklet" then some .shortEdge
  else match keyword.toList with
    | '1' :: _ => some .noDuplex
    | '2' :: _ => some .longEdge
    | _ => none

/-- The duplex modes of a control; options that name none are left out. -/
def duplex? (control : Control) : Option Duplex :=
  let options := control.options.filterMap fun option =>
    (duplexType? option.option).map fun type => {
      type
      isDefault := option.option = control.default
      vendorId := option.option : DuplexOption }
  Duplex.ofOptions? options control.keyword

end PrintConnector.Ppd
