import PrintConnector.Device.Description
import PrintConnector.Json.Value

/-! Device descriptions as JSON.

Members are written in a fixed order, and an optional one only when it is
there.  The control a section came from and the key of a duplex mode stay
inside the connector.
-/

namespace PrintConnector.Device

open PrintConnector.Number (Single Reading)

/-- A speed is written with the fewest digits that name it, and as null if it
is infinite. -/
def encodeSingle (value : Single) : Json :=
  match value.reading with
  | .finite negative magnitude =>
      if magnitude.mantissa = 0 then .number (.decimal negative ⟨0, 0⟩)
      else .number (.decimal negative magnitude.shortest)
  | _ => .null

def encodeList {α : Type} (encode : α → Json) (items : List α) : Json :=
  .array (items.map encode)

def LocalizedText.encode (text : LocalizedText) : Json :=
  .object [("locale", .string text.locale), ("value", .string text.value)]

def encodeTexts : List LocalizedText → Json :=
  encodeList LocalizedText.encode

def ColorType.name : ColorType → String
  | .standardColor => "STANDARD_COLOR"
  | .standardMonochrome => "STANDARD_MONOCHROME"
  | .customColor => "CUSTOM_COLOR"
  | .customMonochrome => "CUSTOM_MONOCHROME"
  | .auto => "AUTO"

def VendorCapabilityType.name : VendorCapabilityType → String
  | .range => "RANGE"
  | .select => "SELECT"
  | .typedValue => "TYPED_VALUE"

def TypedValueType.name : TypedValueType → String
  | .boolean => "BOOLEAN"
  | .float => "FLOAT"
  | .integer => "INTEGER"
  | .string => "STRING"

def DuplexType.name : DuplexType → String
  | .noDuplex => "NO_DUPLEX"
  | .longEdge => "LONG_EDGE"
  | .shortEdge => "SHORT_EDGE"

def MarginsType.name : MarginsType → String
  | .borderless => "BORDERLESS"
  | .standard => "STANDARD"
  | .custom => "CUSTOM"

def encodeOptions {α : Type} (encode : α → Json) (options : List α) : Json :=
  .object [("option", encodeList encode options)]

def SpeedOption.encode (option : SpeedOption) : Json :=
  .present [
    ("speed_ppm", some (encodeSingle option.pagesPerMinute)),
    ("color_type", option.colorTypes.map (encodeList fun type => .string type.name))]

def PrintingSpeed.encode (speed : PrintingSpeed) : Json :=
  encodeOptions SpeedOption.encode speed.options

def SelectOption.encode (option : SelectOption) : Json :=
  .present [
    ("value", some (.string option.value)),
    ("is_default", some (.bool option.isDefault)),
    ("display_name_localized", option.displayName.map encodeTexts)]

def SelectCapability.encode (select : SelectCapability) : Json :=
  encodeOptions SelectOption.encode select.options

def TypedValueCapability.encode (typedValue : TypedValueCapability) : Json :=
  .present [
    ("value_type", some (.string typedValue.valueType.name)),
    ("default", typedValue.default.map .string)]

def VendorCapability.encode (capability : VendorCapability) : Json :=
  .present [
    ("id", some (.string capability.id)),
    ("type", some (.string capability.type.name)),
    ("select_cap", capability.select.map SelectCapability.encode),
    ("typed_value_cap", capability.typedValue.map TypedValueCapability.encode),
    ("display_name_localized", capability.displayName.map encodeTexts)]

def ColorOption.encode (option : ColorOption) : Json :=
  .present [
    ("vendor_id", some (.string option.vendorId)),
    ("type", some (.string option.type.name)),
    ("is_default", some (.bool option.isDefault)),
    ("custom_display_name_localized", option.displayName.map encodeTexts)]

def Color.encode (color : Color) : Json :=
  encodeOptions ColorOption.encode color.options

def DuplexOption.encode (option : DuplexOption) : Json :=
  .object [("type", .string option.type.name), ("is_default", .bool option.isDefault)]

def Duplex.encode (duplex : Duplex) : Json :=
  encodeOptions DuplexOption.encode duplex.options

def MarginsOption.encode (option : MarginsOption) : Json :=
  .object [
    ("type", .string option.type.name),
    ("top_microns", .int option.top),
    ("right_microns", .int option.right),
    ("bottom_microns", .int option.bottom),
    ("left_microns", .int option.left),
    ("is_default", .bool option.isDefault)]

def Margins.encode (margins : Margins) : Json :=
  encodeOptions MarginsOption.encode margins.options

def DpiOption.encode (option : DpiOption) : Json :=
  .present [
    ("horizontal_dpi", some (.int option.horizontal)),
    ("vertical_dpi", some (.int option.vertical)),
    ("is_default", some (.bool option.isDefault)),
    ("vendor_id", some (.string option.vendorId)),
    ("custom_display_name_localized", option.displayName.map encodeTexts)]

def Dpi.encode (dpi : Dpi) : Json :=
  encodeOptions DpiOption.encode dpi.options

/-- The key of a size is left out when it is empty. -/
def MediaOption.encode (option : MediaOption) : Json :=
  .present [
    ("name", some (.string option.name)),
    ("width_microns", some (.int option.width)),
    ("height_microns", some (.int option.height)),
    ("is_continuous_feed", some (.bool option.isContinuousFeed)),
    ("is_default", some (.bool option.isDefault)),
    ("vendor_id", if option.vendorId = "" then none else some (.string option.vendorId)),
    ("custom_display_name_localized", option.displayName.map encodeTexts)]

def MediaSize.encode (mediaSize : MediaSize) : Json :=
  encodeOptions MediaOption.encode mediaSize.options

def Printer.encode (printer : Printer) : Json :=
  .present [
    ("printing_speed", printer.printingSpeed.map PrintingSpeed.encode),
    ("vendor_capability", printer.vendorCapabilities.map (encodeList VendorCapability.encode)),
    ("color", printer.color.map Color.encode),
    ("duplex", printer.duplex.map Duplex.encode),
    ("margins", printer.margins.map Margins.encode),
    ("dpi", printer.dpi.map Dpi.encode),
    ("media_size", printer.mediaSize.map MediaSize.encode)]

def Description.encode (description : Description) : Json :=
  .object [
    ("version", .string description.version),
    ("printer", description.printer.encode)]

end PrintConnector.Device
