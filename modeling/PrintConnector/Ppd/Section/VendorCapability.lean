import PrintConnector.Device.Description
import PrintConnector.Ppd.Control

namespace PrintConnector.Ppd

open PrintConnector.Device

/-- A control that picks one choice becomes a list to select from, a control
that is on or off a typed value. -/
def vendorCapability? (control : Control) : Option VendorCapability :=
  match control.kind with
  | .pickOne =>
      let options := control.options.map fun option => {
        value := option.option
        isDefault := option.option = control.default
        displayName := some (localized option.translation) : SelectOption }
      (SelectCapability.ofOptions? options).map
        (VendorCapability.ofSelect control.keyword control.translation)
  | .boolean =>
      some (VendorCapability.ofTypedValue control.keyword control.translation
        ⟨.boolean, some control.default⟩)

/-- The key that sets one control and takes the value of another: neither a
colon nor a slash occurs in a keyword, so `A:B/C` reads as `A` set to `B` and
`C` to the value given. -/
def combinedId (control choice valued : String) : String :=
  control ++ ":" ++ choice ++ "/" ++ valued

/-- The key of the password of locked printing. -/
def lockedPrintId : String :=
  combinedId "JobType" "LockedPrint" "LockedPrintPassword"

/-- The password of locked printing, for a job type that offers it. -/
def lockedPrintPassword? (jobType _password : Control) : Option VendorCapability :=
  if jobType.options.any (·.option = "LockedPrint") then
    some (VendorCapability.ofTypedValue lockedPrintId "Password (4 numbers)" ⟨.string, none⟩)
  else none

end PrintConnector.Ppd
