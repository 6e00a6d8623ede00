import PrintConnector.Device.Encoding

/-! Reading device descriptions from JSON.

A member that the schema does not know is passed over.  An optional member may
be missing or null; any other missing member, and any member of the wrong type,
makes the whole description unreadable.
-/

namespace PrintConnector.Device

open PrintConnector.Number (Single)
open PrintConnector.Json (required optional)

/-- A whole number that 64 bits hold is rounded once; every other number is worked
out in double precision first. -/
def decodeSingle? : Json → Option Single
  | .number (.whole value) =>
      if -9223372036854775808 ≤ value && value < 18446744073709551616 then
        some (Single.ofInt value)
      else some (Single.ofDecimalViaDouble (decide (value < 0)) value.natAbs 0)
  | .number (.decimal negative value) =>
      some (Single.ofDecimalViaDouble negative value.digits value.exponent)
  | _ => none

/-- A value told by its name: the name itself, or an object whose only key is
that name and which has null there. -/
def decodeName? {α : Type} (name : α → String) (all : List α) (value : Json) : Option α := do
  let written ← match value with
    | .string written => some written
    | .object members =>
        match Json.soleMember? members with
        | some (written, .null) => some written
        | _ => none
    | _ => none
  all.find? fun item => name item = written

def decodeInt32? : Json → Option Int :=
  Json.asIntBetween? (-2147483648) 2147483647

def LocalizedText.decode? (value : Json) : Option LocalizedText := do
  match ← value.record? ["locale", "value"] with
  | [locale, text] =>
      some {
        locale := ← required Json.asString? locale
        value := ← required Json.asString? text }
  | _ => none

def decodeTexts? : Json → Option (List LocalizedText) :=
  Json.asListOf? LocalizedText.decode?

def ColorType.decode? : Json → Option ColorType :=
  decodeName? ColorType.name
    [.standardColor, .standardMonochrome, .customColor, .customMonochrome, .auto]

def VendorCapabilityType.decode? : Json → Option VendorCapabilityType :=
  decodeName? VendorCapabilityType.name [.range, .select, .typedValue]

def TypedValueType.decode? : Json → Option TypedValueType :=
  decodeName? TypedValueType.name [.boolean, .float, .integer, .string]

def DuplexType.decode? : Json → Option DuplexType :=
  decodeName? DuplexType.name [.noDuplex, .longEdge, .shortEdge]

def MarginsType.decode? : Json → Option MarginsType :=
  decodeName? MarginsType.name [.borderless, .standard, .custom]

/-- The options of a section that has no other member. -/
def decodeOptions? {α : Type} (decode : Json → Option α) (value : Json) : Option (List α) := do
  match ← value.record? ["option"] with
  | [options] => required (Json.asListOf? decode) options
  | _ => none

def SpeedOption.decode? (value : Json) : Option SpeedOption := do
  match ← value.record? ["speed_ppm", "color_type"] with
  | [speed, colorTypes] =>
      some {
        pagesPerMinute := ← required decodeSingle? speed
        colorTypes := ← optional (Json.asListOf? ColorType.decode?) colorTypes }
  | _ => none

def PrintingSpeed.decode? (value : Json) : Option PrintingSpeed :=
  (decodeOptions? SpeedOption.decode? value).map PrintingSpeed.mk

def SelectOption.decode? (value : Json) : Option SelectOption := do
  match ← value.record? ["value", "is_default", "display_name_localized"] with
  | [text, isDefault, displayName] =>
      some {
        value := ← required Json.asString? text
        isDefault := ← required Json.asBool? isDefault
        displayName := ← optional decodeTexts? displayName }
  | _ => none

def SelectCapability.decode? (value : Json) : Option SelectCapability :=
  (decodeOptions? SelectOption.decode? value).map SelectCapability.mk

def TypedValueCapability.decode? (value : Json) : Option TypedValueCapability := do
  match ← value.record? ["value_type", "default"] with
  | [valueType, default] =>
      some {
        valueType := ← required TypedValueType.decode? valueType
        default := ← optional Json.asString? default }
  | _ => none

def VendorCapability.decode? (value : Json) : Option VendorCapability := do
  match ← value.record?
      ["id", "type", "select_cap", "typed_value_cap", "display_name_localized"] with
  | [id, type, select, typedValue, displayName] =>
      some {
        id := ← required Json.asString? id
        type := ← required VendorCapabilityType.decode? type
        select := ← optional SelectCapability.decode? select
        typedValue := ← optional TypedValueCapability.decode? typedValue
        displayName := ← optional decodeTexts? displayName }
  | _ => none

def ColorOption.decode? (value : Json) : Option ColorOption := do
  match ← value.record? ["vendor_id", "type", "is_default", "custom_display_name_localized"] with
  | [vendorId, type, isDefault, displayName] =>
      some {
        vendorId := ← required Json.asString? vendorId
        type := ← required ColorType.decode? type
        isDefault := ← required Json.asBool? isDefault
        displayName := ← optional decodeTexts? displayName }
  | _ => none

def Color.decode? (value : Json) : Option Color :=
  (decodeOptions? ColorOption.decode? value).map fun options => ⟨options, ""⟩

def DuplexOption.decode? (value : Json) : Option DuplexOption := do
  match ← value.record? ["type", "is_default"] with
  | [type, isDefault] =>
      some {
        type := ← required DuplexType.decode? type
        isDefault := ← required Json.asBool? isDefault
        vendorId := "" }
  | _ => none

def Duplex.decode? (value : Json) : Option Duplex :=
  (decodeOptions? DuplexOption.decode? value).map fun options => ⟨options, ""⟩

def MarginsOption.decode? (value : Json) : Option MarginsOption := do
  match ← value.record?
      ["type", "top_microns", "right_microns", "bottom_microns", "left_microns", "is_default"] with
  | [type, top, right, bottom, left, isDefault] =>
      some {
        type := ← required MarginsType.decode? type
        top := ← required decodeInt32? top
        right := ← required decodeInt32? right
        bottom := ← required decodeInt32? bottom
        left := ← required decodeInt32? left
        isDefault := ← required Json.asBool? isDefault }
  | _ => none

def Margins.decode? (value : Json) : Option Margins :=
  (decodeOptions? MarginsOption.decode? value).map Margins.mk

def DpiOption.decode? (value : Json) : Option DpiOption := do
  match ← value.record?
      ["horizontal_dpi", "vertical_dpi", "is_default", "vendor_id",
        "custom_display_name_localized"] with
  | [horizontal, vertical, isDefault, vendorId, displayName] =>
      some {
        horizontal := ← required decodeInt32? horizontal
        vertical := ← required decodeInt32? vertical
        isDefault := ← required Json.asBool? isDefault
        vendorId := ← required Json.asString? vendorId
        displayName := ← optional decodeTexts? displayName }
  | _ => none

def Dpi.decode? (value : Json) : Option Dpi :=
  (decodeOptions? DpiOption.decode? value).map Dpi.mk

/-- A size without a key has the empty one; a null key is unreadable. -/
def MediaOption.decode? (value : Json) : Option MediaOption := do
  match ← value.record?
      ["name", "width_microns", "height_microns", "is_continuous_feed", "is_default",
        "vendor_id", "custom_display_name_localized"] with
  | [name, width, height, isContinuousFeed, isDefault, vendorId, displayName] =>
      some {
        name := ← required Json.asString? name
        width := ← required decodeInt32? width
        height := ← required decodeInt32? height
        isContinuousFeed := ← required Json.asBool? isContinuousFeed
        isDefault := ← required Json.asBool? isDefault
        vendorId := ← required Json.asString? (vendorId.getD (.string ""))
        displayName := ← optional decodeTexts? displayName }
  | _ => none

def MediaSize.decode? (value : Json) : Option MediaSize :=
  (decodeOptions? MediaOption.decode? value).map MediaSize.mk

def Printer.decode? (value : Json) : Option Printer := do
  match ← value.record?
      ["printing_speed", "vendor_capability", "color", "duplex", "margins", "dpi",
        "media_size"] with
  | [printingSpeed, vendorCapabilities, color, duplex, margins, dpi, mediaSize] =>
      some {
        printingSpeed := ← optional PrintingSpeed.decode? printingSpeed
        vendorCapabilities :=
          ← optional (Json.asListOf? VendorCapability.decode?) vendorCapabilities
        color := ← optional Color.decode? color
        duplex := ← optional Duplex.decode? duplex
        margins := ← optional Margins.decode? margins
        dpi := ← optional Dpi.decode? dpi
        mediaSize := ← optional MediaSize.decode? mediaSize }
  | _ => none

def Description.decode? (value : Json) : Option Description := do
  match ← value.record? ["version", "printer"] with
  | [version, printer] =>
      some {
        version := ← required Json.asString? version
        printer := ← required Printer.decode? printer }
  | _ => none

end PrintConnector.Device
