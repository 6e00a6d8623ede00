import Mathlib.Data.List.Nodup
import PrintConnector.Device.Decoding
import PrintConnector.Proofs.Number.Reread

namespace PrintConnector.Json

variable {members : List (String × Option Json)} {name : String} {value : Option Json}

theorem member?_of_not_mem (absent : name ∉ members.map Prod.fst) :
    member? name (members.filterMap fun member => member.2.map (member.1, ·)) = none := by
  induction members with
  | nil => rfl
  | cons member members ih =>
      obtain ⟨other, content⟩ := member
      rw [List.map_cons, List.mem_cons, not_or] at absent
      cases content with
      | none => exact ih absent.2
      | some content =>
          have rest := ih absent.2
          have apart : other ≠ name := fun same => absent.1 same.symm
          simp only [List.filterMap_cons, Option.map_some, member?, rest, if_neg apart]

theorem member?_of_mem (distinct : (members.map Prod.fst).Nodup)
    (member : (name, value) ∈ members) :
    member? name (members.filterMap fun member => member.2.map (member.1, ·)) = value := by
  induction members with
  | nil => contradiction
  | cons first members ih =>
      obtain ⟨other, content⟩ := first
      obtain ⟨absent, distinct⟩ := List.nodup_cons.mp distinct
      rcases List.mem_cons.mp member with same | later
      · cases same
        have rest := member?_of_not_mem absent
        cases value with
        | none => exact rest
        | some value => simp only [List.filterMap_cons, Option.map_some, member?, rest, if_true]
      · have rest := ih distinct later
        have apart : other ≠ name := by
          rintro rfl
          exact absent (List.mem_map.mpr ⟨_, later, rfl⟩)
        cases content with
        | none => exact rest
        | some content =>
            simp only [List.filterMap_cons, Option.map_some, member?, rest, if_neg apart]
            cases value <;> rfl

/-- The fields of a record are found under their names, the absent ones included. -/
theorem record?_present (members : List (String × Option Json))
    (distinct : (members.map Prod.fst).Nodup) :
    (present members).record? (members.map Prod.fst) = some (members.map Prod.snd) := by
  rw [present, record?, List.map_map]
  refine congrArg some (List.map_congr_left fun member inside => ?_)
  exact member?_of_mem distinct inside

end PrintConnector.Json

namespace PrintConnector.Device

open PrintConnector.Number (Single)
open PrintConnector.Json (required optional record?_present)

variable {α : Type} {encode : α → Json} {decode : Json → Option α} {form : α → α}

/-- A value is written, and not as null, and read back in another form. -/
structure Returns (encode : α → Json) (decode : Json → Option α) (form : α → α)
    (item : α) : Prop where
  written : encode item ≠ .null
  read : decode (encode item) = some (form item)

theorem optional_returns {item? : Option α}
    (returns : ∀ item ∈ item?, Returns encode decode form item) :
    optional decode (item?.map encode) = some (item?.map form) := by
  cases item? with
  | none => rfl
  | some item =>
      obtain ⟨written, read⟩ := returns item rfl
      rw [Option.map_some, Json.optional, read]
      · rfl
      · exact written

theorem mapM_returns {items : List α} (returns : ∀ item ∈ items, Returns encode decode form item) :
    (items.map encode).mapM decode = some (items.map form) := by
  induction items with
  | nil => rfl
  | cons item items ih =>
      obtain ⟨first, others⟩ := List.forall_mem_cons.mp returns
      simp [List.mapM_cons, first.read, ih others]

theorem list_returns {items : List α} (returns : ∀ item ∈ items, Returns encode decode form item) :
    Returns (encodeList encode) (Json.asListOf? decode) (List.map form) items where
  written := by simp [encodeList]
  read := mapM_returns returns

theorem options_returns {items : List α}
    (returns : ∀ item ∈ items, Returns encode decode form item) :
    Returns (encodeOptions encode) (decodeOptions? decode) (List.map form) items where
  written := by simp [encodeOptions]
  read := by
    have fields := record?_present [("option", some (encodeList encode items))]
      (by simp)
    have list := (list_returns returns).read
    have object : encodeOptions encode items =
        .present [("option", some (encodeList encode items))] := rfl
    simp only [List.map_cons, List.map_nil] at fields
    simp [decodeOptions?, object, fields, required, list]

theorem string_returns (text : String) : Returns Json.string Json.asString? id text :=
  ⟨by simp, rfl⟩

theorem LocalizedText.returns (text : LocalizedText) :
    Returns LocalizedText.encode LocalizedText.decode? id text where
  written := by simp [LocalizedText.encode]
  read := by
    have fields := record?_present [("locale", some (.string text.locale)),
      ("value", some (.string text.value))] (by simp)
    have object : text.encode = .present [("locale", some (.string text.locale)),
      ("value", some (.string text.value))] := rfl
    simp only [List.map_cons, List.map_nil] at fields
    simp [LocalizedText.decode?, object, fields, required, Json.asString?]

theorem texts_returns (texts : List LocalizedText) :
    Returns encodeTexts decodeTexts? id texts := by
  have returns := list_returns fun text (_ : text ∈ texts) => text.returns
  rwa [List.map_id_fun] at returns

theorem displayName_returns (texts? : Option (List LocalizedText)) :
    optional decodeTexts? (texts?.map encodeTexts) = some texts? := by
  have returns := optional_returns fun texts (_ : texts ∈ texts?) => texts_returns texts
  rwa [Option.map_id] at returns

section Names

theorem ColorType.returns (type : ColorType) :
    Returns (fun type : ColorType => .string type.name) ColorType.decode? id type where
  written := by simp
  read := by cases type <;> decide

theorem VendorCapabilityType.read (type : VendorCapabilityType) :
    VendorCapabilityType.decode? (.string type.name) = some type := by
  cases type <;> decide

theorem TypedValueType.read (type : TypedValueType) :
    TypedValueType.decode? (.string type.name) = some type := by
  cases type <;> decide

theorem DuplexType.read (type : DuplexType) :
    DuplexType.decode? (.string type.name) = some type := by
  cases type <;> decide

theorem MarginsType.read (type : MarginsType) :
    MarginsType.decode? (.string type.name) = some type := by
  cases type <;> decide

end Names

/-- A value that 32 bits hold. -/
def FitsInt32 (value : Int) : Prop :=
  -2147483648 ≤ value ∧ value ≤ 2147483647

theorem decodeInt32?_int {value : Int} (fits : FitsInt32 value) :
    decodeInt32? (.int value) = some value := by
  simp [decodeInt32?, Json.asIntBetween?, Json.int, fits.1, fits.2]

/-- Numbers are held in 32 bits. -/
structure MarginsOption.Fits (option : MarginsOption) : Prop where
  top : FitsInt32 option.top
  right : FitsInt32 option.right
  bottom : FitsInt32 option.bottom
  left : FitsInt32 option.left

structure DpiOption.Fits (option : DpiOption) : Prop where
  horizontal : FitsInt32 option.horizontal
  vertical : FitsInt32 option.vertical

structure MediaOption.Fits (option : MediaOption) : Prop where
  width : FitsInt32 option.width
  height : FitsInt32 option.height

structure Printer.Fits (printer : Printer) : Prop where
  margins : ∀ margins ∈ printer.margins, ∀ option ∈ margins.options, option.Fits
  dpi : ∀ dpi ∈ printer.dpi, ∀ option ∈ dpi.options, option.Fits
  mediaSize : ∀ mediaSize ∈ printer.mediaSize, ∀ option ∈ mediaSize.options, option.Fits

def PrintingSpeed.IsFinite (speed : PrintingSpeed) : Prop :=
  ∀ option ∈ speed.options, option.pagesPerMinute.isFinite = true

def Color.plain (color : Color) : Color :=
  { color with vendorKey := "" }

def DuplexOption.plain (option : DuplexOption) : DuplexOption :=
  { option with vendorId := "" }

def Duplex.plain (duplex : Duplex) : Duplex :=
  ⟨duplex.options.map DuplexOption.plain, ""⟩

def Printer.plain (printer : Printer) : Printer :=
  { printer with
    color := printer.color.map Color.plain
    duplex := printer.duplex.map Duplex.plain }

def Description.plain (description : Description) : Description :=
  { description with printer := description.printer.plain }

theorem decodeSingle?_encodeSingle {single : Single} (finite : single.isFinite = true) :
    decodeSingle? (encodeSingle single) = some single := by
  unfold Single.isFinite at finite
  split at finite
  · rename_i negative magnitude reading
    rw [encodeSingle, reading]
    by_cases zero : magnitude.mantissa = 0
    · simp only [if_pos zero, decodeSingle?, Single.ofDecimalViaDouble_zero reading zero]
    · simp only [if_neg zero, decodeSingle?, Single.ofDecimalViaDouble_shortest reading zero]
  · contradiction

section Sections

theorem SpeedOption.returns {option : SpeedOption}
    (finite : option.pagesPerMinute.isFinite = true) :
    Returns SpeedOption.encode SpeedOption.decode? id option where
  written := by simp [SpeedOption.encode, Json.present]
  read := by
    have fields := record?_present [
      ("speed_ppm", some (encodeSingle option.pagesPerMinute)),
      ("color_type", option.colorTypes.map (encodeList fun type => .string type.name))] (by simp)
    have speed := decodeSingle?_encodeSingle finite
    have types := optional_returns fun types (_ : types ∈ option.colorTypes) =>
      list_returns fun type (_ : type ∈ types) => type.returns
    simp only [List.map_cons, List.map_nil, List.map_id_fun, Option.map_id] at fields types
    simp [SpeedOption.decode?, SpeedOption.encode, fields, required, speed, types]

theorem PrintingSpeed.returns {speed : PrintingSpeed} (finite : speed.IsFinite) :
    Returns PrintingSpeed.encode PrintingSpeed.decode? id speed where
  written := by simp [PrintingSpeed.encode, encodeOptions]
  read := by
    have options := options_returns fun option member => SpeedOption.returns (finite option member)
    simp [PrintingSpeed.decode?, PrintingSpeed.encode, options.read]

theorem SelectOption.returns (option : SelectOption) :
    Returns SelectOption.encode SelectOption.decode? id option where
  written := by simp [SelectOption.encode, Json.present]
  read := by
    have fields := record?_present [
      ("value", some (.string option.value)),
      ("is_default", some (.bool option.isDefault)),
      ("display_name_localized", option.displayName.map encodeTexts)] (by simp)
    simp only [List.map_cons, List.map_nil] at fields
    simp [SelectOption.decode?, SelectOption.encode, fields, required, Json.asString?, Json.asBool?,
      displayName_returns]

theorem SelectCapability.returns (select : SelectCapability) :
    Returns SelectCapability.encode SelectCapability.decode? id select where
  written := by simp [SelectCapability.encode, encodeOptions]
  read := by
    have options := options_returns fun option (_ : option ∈ select.options) => option.returns
    simp [SelectCapability.decode?, SelectCapability.encode, options.read]

theorem TypedValueCapability.returns (typedValue : TypedValueCapability) :
    Returns TypedValueCapability.encode TypedValueCapability.decode? id typedValue where
  written := by simp [TypedValueCapability.encode, Json.present]
  read := by
    have fields := record?_present [
      ("value_type", some (.string typedValue.valueType.name)),
      ("default", typedValue.default.map .string)] (by simp)
    have default := optional_returns fun text (_ : text ∈ typedValue.default) => string_returns text
    simp only [List.map_cons, List.map_nil, Option.map_id] at fields default
    simp [TypedValueCapability.decode?, TypedValueCapability.encode, fields, required, default,
      TypedValueType.read]

theorem vendorCapability_returns (capability : VendorCapability) :
    Returns VendorCapability.encode VendorCapability.decode? id capability where
  written := by simp [VendorCapability.encode, Json.present]
  read := by
    have fields := record?_present [
      ("id", some (.string capability.id)),
      ("type", some (.string capability.type.name)),
      ("select_cap", capability.select.map SelectCapability.encode),
      ("typed_value_cap", capability.typedValue.map TypedValueCapability.encode),
      ("display_name_localized", capability.displayName.map encodeTexts)] (by simp)
    have select := optional_returns fun select (_ : select ∈ capability.select) => select.returns
    have typed := optional_returns fun typed (_ : typed ∈ capability.typedValue) => typed.returns
    simp only [List.map_cons, List.map_nil, Option.map_id] at fields select typed
    simp [VendorCapability.decode?, VendorCapability.encode, fields, required, Json.asString?,
      select, typed, displayName_returns, VendorCapabilityType.read]

theorem ColorOption.returns (option : ColorOption) :
    Returns ColorOption.encode ColorOption.decode? id option where
  written := by simp [ColorOption.encode, Json.present]
  read := by
    have fields := record?_present [
      ("vendor_id", some (.string option.vendorId)),
      ("type", some (.string option.type.name)),
      ("is_default", some (.bool option.isDefault)),
      ("custom_display_name_localized", option.displayName.map encodeTexts)] (by simp)
    have type := option.type.returns.read
    simp only [List.map_cons, List.map_nil] at fields
    simp [ColorOption.decode?, ColorOption.encode, fields, required, Json.asString?, Json.asBool?,
      displayName_returns, type]

theorem Color.returns (color : Color) : Returns Color.encode Color.decode? Color.plain color where
  written := by simp [Color.encode, encodeOptions]
  read := by
    have options := options_returns fun option (_ : option ∈ color.options) => option.returns
    simp [Color.decode?, Color.encode, options.read, Color.plain]

theorem DuplexOption.returns (option : DuplexOption) :
    Returns DuplexOption.encode DuplexOption.decode? DuplexOption.plain option where
  written := by simp [DuplexOption.encode]
  read := by
    have fields := record?_present [
      ("type", some (.string option.type.name)),
      ("is_default", some (.bool option.isDefault))] (by simp)
    have object : option.encode = .present [
      ("type", some (.string option.type.name)),
      ("is_default", some (.bool option.isDefault))] := rfl
    simp only [List.map_cons, List.map_nil] at fields
    simp [DuplexOption.decode?, object, fields, required, Json.asBool?, DuplexType.read,
      DuplexOption.plain]

theorem Duplex.returns (duplex : Duplex) :
    Returns Duplex.encode Duplex.decode? Duplex.plain duplex where
  written := by simp [Duplex.encode, encodeOptions]
  read := by
    have options := options_returns fun option (_ : option ∈ duplex.options) => option.returns
    simp [Duplex.decode?, Duplex.encode, options.read, Duplex.plain]

theorem MarginsOption.returns {option : MarginsOption} (fits : option.Fits) :
    Returns MarginsOption.encode MarginsOption.decode? id option where
  written := by simp [MarginsOption.encode]
  read := by
    have fields := record?_present [
      ("type", some (.string option.type.name)),
      ("top_microns", some (.int option.top)),
      ("right_microns", some (.int option.right)),
      ("bottom_microns", some (.int option.bottom)),
      ("left_microns", some (.int option.left)),
      ("is_default", some (.bool option.isDefault))] (by simp)
    have object : option.encode = .present [
      ("type", some (.string option.type.name)),
      ("top_microns", some (.int option.top)),
      ("right_microns", some (.int option.right)),
      ("bottom_microns", some (.int option.bottom)),
      ("left_microns", some (.int option.left)),
      ("is_default", some (.bool option.isDefault))] := rfl
    simp only [List.map_cons, List.map_nil] at fields
    simp [MarginsOption.decode?, object, fields, required, Json.asBool?, MarginsType.read,
      decodeInt32?_int fits.top, decodeInt32?_int fits.right, decodeInt32?_int fits.bottom,
      decodeInt32?_int fits.left]

theorem Margins.returns {margins : Margins} (fits : ∀ option ∈ margins.options, option.Fits) :
    Returns Margins.encode Margins.decode? id margins where
  written := by simp [Margins.encode, encodeOptions]
  read := by
    have options := options_returns fun option member => MarginsOption.returns (fits option member)
    simp [Margins.decode?, Margins.encode, options.read]

theorem DpiOption.returns {option : DpiOption} (fits : option.Fits) :
    Returns DpiOption.encode DpiOption.decode? id option where
  written := by simp [DpiOption.encode, Json.present]
  read := by
    have fields := record?_present [
      ("horizontal_dpi", some (.int option.horizontal)),
      ("vertical_dpi", some (.int option.vertical)),
      ("is_default", some (.bool option.isDefault)),
      ("vendor_id", some (.string option.vendorId)),
      ("custom_display_name_localized", option.displayName.map encodeTexts)] (by simp)
    simp only [List.map_cons, List.map_nil] at fields
    simp [DpiOption.decode?, DpiOption.encode, fields, required, Json.asString?, Json.asBool?,
      displayName_returns, decodeInt32?_int fits.horizontal, decodeInt32?_int fits.vertical]

theorem Dpi.returns {dpi : Dpi} (fits : ∀ option ∈ dpi.options, option.Fits) :
    Returns Dpi.encode Dpi.decode? id dpi where
  written := by simp [Dpi.encode, encodeOptions]
  read := by
    have options := options_returns fun option member => DpiOption.returns (fits option member)
    simp [Dpi.decode?, Dpi.encode, options.read]

/-- The empty key is left out, and read where there is none. -/
theorem MediaOption.returns {option : MediaOption} (fits : option.Fits) :
    Returns MediaOption.encode MediaOption.decode? id option where
  written := by simp [MediaOption.encode, Json.present]
  read := by
    have fields := record?_present [
      ("name", some (.string option.name)),
      ("width_microns", some (.int option.width)),
      ("height_microns", some (.int option.height)),
      ("is_continuous_feed", some (.bool option.isContinuousFeed)),
      ("is_default", some (.bool option.isDefault)),
      ("vendor_id", if option.vendorId = "" then none else some (.string option.vendorId)),
      ("custom_display_name_localized", option.displayName.map encodeTexts)] (by simp)
    have key : (if option.vendorId = "" then none else some (Json.string option.vendorId)).getD
        (.string "") = .string option.vendorId := by
      split
      · rename_i empty
        rw [empty]
        rfl
      · rfl
    simp only [List.map_cons, List.map_nil] at fields
    simp [MediaOption.decode?, MediaOption.encode, fields, required, key, Json.asString?,
      Json.asBool?, displayName_returns, decodeInt32?_int fits.width, decodeInt32?_int fits.height]

theorem MediaSize.returns {mediaSize : MediaSize}
    (fits : ∀ option ∈ mediaSize.options, option.Fits) :
    Returns MediaSize.encode MediaSize.decode? id mediaSize where
  written := by simp [MediaSize.encode, encodeOptions]
  read := by
    have options := options_returns fun option member => MediaOption.returns (fits option member)
    simp [MediaSize.decode?, MediaSize.encode, options.read]

end Sections

theorem Printer.returns {printer : Printer} (fits : printer.Fits)
    (finite : ∀ speed ∈ printer.printingSpeed, speed.IsFinite) :
    Returns Printer.encode Printer.decode? Printer.plain printer where
  written := by simp [Printer.encode, Json.present]
  read := by
    have fields := record?_present [
      ("printing_speed", printer.printingSpeed.map PrintingSpeed.encode),
      ("vendor_capability", printer.vendorCapabilities.map (encodeList VendorCapability.encode)),
      ("color", printer.color.map Color.encode),
      ("duplex", printer.duplex.map Duplex.encode),
      ("margins", printer.margins.map Margins.encode),
      ("dpi", printer.dpi.map Dpi.encode),
      ("media_size", printer.mediaSize.map MediaSize.encode)] (by simp)
    have speed := optional_returns fun speed member => PrintingSpeed.returns (finite speed member)
    have vendor := optional_returns fun capabilities
        (_ : capabilities ∈ printer.vendorCapabilities) =>
      list_returns fun capability (_ : capability ∈ capabilities) =>
        vendorCapability_returns capability
    have color := optional_returns fun color (_ : color ∈ printer.color) => color.returns
    have duplex := optional_returns fun duplex (_ : duplex ∈ printer.duplex) => duplex.returns
    have margins := optional_returns fun margins member =>
      Margins.returns (fits.margins margins member)
    have dpi := optional_returns fun dpi member => Dpi.returns (fits.dpi dpi member)
    have mediaSize := optional_returns fun mediaSize member =>
      MediaSize.returns (fits.mediaSize mediaSize member)
    simp only [List.map_cons, List.map_nil] at fields
    simp only [List.map_id_fun, Option.map_id] at speed vendor margins dpi mediaSize
    simp [Printer.decode?, Printer.encode, fields, speed, vendor, color, duplex, margins, dpi,
      mediaSize, Printer.plain]

theorem Description.returns {description : Description} (fits : description.printer.Fits)
    (finite : ∀ speed ∈ description.printer.printingSpeed, speed.IsFinite) :
    Description.decode? description.encode = some description.plain := by
  have fields := record?_present [
    ("version", some (.string description.version)),
    ("printer", some description.printer.encode)] (by simp)
  have object : description.encode = .present [
    ("version", some (.string description.version)),
    ("printer", some description.printer.encode)] := rfl
  have printer := (Printer.returns fits finite).read
  simp only [List.map_cons, List.map_nil] at fields
  simp [Description.decode?, object, fields, required, Json.asString?, printer, Description.plain]

end PrintConnector.Device
