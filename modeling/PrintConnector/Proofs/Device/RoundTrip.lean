import PrintConnector.Ppd.Translation
import PrintConnector.Proofs.Device.Returned
import PrintConnector.Proofs.Json.Text

namespace PrintConnector.Device

open PrintConnector.Number (Single)
open PrintConnector.Json (required optional IsWritten)

variable {α : Type} {encode : α → Json} {decode : Json → Option α}

section Decoded

theorem decodeInt32?_fits {json : Json} {value : Int} (read : decodeInt32? json = some value) :
    FitsInt32 value := by
  unfold decodeInt32? Json.asIntBetween? at read
  split at read
  · split at read
    · rename_i fits
      cases read
      simpa [FitsInt32] using fits
    · contradiction
  · contradiction

theorem exists_of_required {item? : Option Json} {item : α}
    (read : required decode item? = some item) : ∃ json, decode json = some item := by
  cases item? with
  | none => contradiction
  | some json => exact ⟨json, read⟩

theorem exists_of_optional {json? : Option Json} {item? : Option α}
    (read : optional decode json? = some item?) :
    ∀ item ∈ item?, ∃ json, decode json = some item := by
  intro item member
  unfold Json.optional at read
  split at read
  · cases read
    contradiction
  · cases read
    contradiction
  · rename_i json _
    obtain ⟨same, decoded, rfl⟩ := Option.map_eq_some_iff.mp read
    cases member
    exact ⟨json, decoded⟩

theorem exists_of_mapM {values : List Json} {items : List α}
    (read : values.mapM decode = some items) : ∀ item ∈ items, ∃ json, decode json = some item := by
  induction values generalizing items with
  | nil =>
      cases read
      simp
  | cons value values ih =>
      simp only [List.mapM_cons, Option.bind_eq_bind, Option.bind_eq_some_iff] at read
      obtain ⟨first, decoded, rest, later, same⟩ := read
      cases same
      intro item member
      rcases List.mem_cons.mp member with rfl | inside
      · exact ⟨value, decoded⟩
      · exact ih later item inside

theorem exists_of_options {json : Json} {items : List α}
    (read : decodeOptions? decode json = some items) :
    ∀ item ∈ items, ∃ value, decode value = some item := by
  unfold decodeOptions? at read
  obtain ⟨fields, -, read⟩ := Option.bind_eq_some_iff.mp read
  split at read
  · obtain ⟨list, decoded⟩ := exists_of_required read
    obtain ⟨values, -, mapped⟩ := Option.bind_eq_some_iff.mp decoded
    exact exists_of_mapM mapped
  · contradiction

/-- What each option has that is read, all options of a section have. -/
theorem forall_of_section {σ : Type} {make : List α → σ} {options : σ → List α}
    (made : ∀ list, options (make list) = list) {valid : α → Prop}
    (each : ∀ json item, decode json = some item → valid item) {json? : Option Json}
    {section? : Option σ}
    (read : optional (fun json => (decodeOptions? decode json).map make) json? = some section?) :
    ∀ whole ∈ section?, ∀ item ∈ options whole, valid item := by
  intro whole member item inside
  obtain ⟨json, decoded⟩ := exists_of_optional read whole member
  obtain ⟨list, listed, rfl⟩ := Option.map_eq_some_iff.mp decoded
  rw [made] at inside
  obtain ⟨value, decoded⟩ := exists_of_options listed item inside
  exact each value item decoded

theorem MarginsOption.fits_of_decode {json : Json} {option : MarginsOption}
    (read : MarginsOption.decode? json = some option) : option.Fits := by
  unfold MarginsOption.decode? at read
  simp only [Option.bind_eq_bind, Option.bind_eq_some_iff] at read
  obtain ⟨fields, -, read⟩ := read
  split at read
  · simp only [Option.bind_eq_some_iff] at read
    obtain ⟨type, -, top, readTop, right, readRight, bottom, readBottom, left, readLeft, isDefault,
      -, same⟩ := read
    cases same
    obtain ⟨_, topRead⟩ := exists_of_required readTop
    obtain ⟨_, rightRead⟩ := exists_of_required readRight
    obtain ⟨_, bottomRead⟩ := exists_of_required readBottom
    obtain ⟨_, leftRead⟩ := exists_of_required readLeft
    exact ⟨decodeInt32?_fits topRead, decodeInt32?_fits rightRead, decodeInt32?_fits bottomRead,
      decodeInt32?_fits leftRead⟩
  · contradiction

theorem DpiOption.fits_of_decode {json : Json} {option : DpiOption}
    (read : DpiOption.decode? json = some option) : option.Fits := by
  unfold DpiOption.decode? at read
  simp only [Option.bind_eq_bind, Option.bind_eq_some_iff] at read
  obtain ⟨fields, -, read⟩ := read
  split at read
  · simp only [Option.bind_eq_some_iff] at read
    obtain ⟨horizontal, readHorizontal, vertical, readVertical, isDefault, -, vendorId, -,
      displayName, -, same⟩ := read
    cases same
    obtain ⟨_, horizontalRead⟩ := exists_of_required readHorizontal
    obtain ⟨_, verticalRead⟩ := exists_of_required readVertical
    exact ⟨decodeInt32?_fits horizontalRead, decodeInt32?_fits verticalRead⟩
  · contradiction

theorem MediaOption.fits_of_decode {json : Json} {option : MediaOption}
    (read : MediaOption.decode? json = some option) : option.Fits := by
  unfold MediaOption.decode? at read
  simp only [Option.bind_eq_bind, Option.bind_eq_some_iff] at read
  obtain ⟨fields, -, read⟩ := read
  split at read
  · simp only [Option.bind_eq_some_iff] at read
    obtain ⟨name, -, width, readWidth, height, readHeight, isContinuousFeed, -, isDefault, -,
      vendorId, -, displayName, -, same⟩ := read
    cases same
    obtain ⟨_, widthRead⟩ := exists_of_required readWidth
    obtain ⟨_, heightRead⟩ := exists_of_required readHeight
    exact ⟨decodeInt32?_fits widthRead, decodeInt32?_fits heightRead⟩
  · contradiction

theorem DuplexOption.plain_of_decode {json : Json} {option : DuplexOption}
    (read : DuplexOption.decode? json = some option) : option.plain = option := by
  unfold DuplexOption.decode? at read
  simp only [Option.bind_eq_bind, Option.bind_eq_some_iff] at read
  obtain ⟨fields, -, read⟩ := read
  split at read
  · simp only [Option.bind_eq_some_iff] at read
    obtain ⟨type, -, isDefault, -, same⟩ := read
    cases same
    rfl
  · contradiction

theorem Duplex.plain_of_decode {json : Json} {duplex : Duplex}
    (read : Duplex.decode? json = some duplex) : duplex.plain = duplex := by
  obtain ⟨options, decoded, rfl⟩ := Option.map_eq_some_iff.mp read
  have plain : options.map DuplexOption.plain = options := by
    rw [List.map_congr_left fun option member => ?_, List.map_id]
    obtain ⟨value, read⟩ := exists_of_options decoded option member
    exact DuplexOption.plain_of_decode read
  simp [Duplex.plain, plain]

theorem Color.plain_of_decode {json : Json} {color : Color}
    (read : Color.decode? json = some color) : color.plain = color := by
  obtain ⟨options, -, rfl⟩ := Option.map_eq_some_iff.mp read
  rfl

theorem map_plain {form : α → α} {item? : Option α} (plain : ∀ item ∈ item?, form item = item) :
    item?.map form = item? := by
  cases item? with
  | none => rfl
  | some item => exact congrArg some (plain item rfl)

theorem Printer.of_decode {json : Json} {printer : Printer}
    (read : Printer.decode? json = some printer) : printer.Fits ∧ printer.plain = printer := by
  unfold Printer.decode? at read
  simp only [Option.bind_eq_bind, Option.bind_eq_some_iff] at read
  obtain ⟨fields, -, read⟩ := read
  split at read
  · simp only [Option.bind_eq_some_iff] at read
    obtain ⟨speed, -, vendor, -, color, readColor, duplex, readDuplex, margins, readMargins, dpi,
      readDpi, mediaSize, readMediaSize, same⟩ := read
    cases same
    refine ⟨⟨?_, ?_, ?_⟩, ?_⟩
    · exact forall_of_section (fun _ => rfl) (fun _ _ => MarginsOption.fits_of_decode) readMargins
    · exact forall_of_section (fun _ => rfl) (fun _ _ => DpiOption.fits_of_decode) readDpi
    · exact forall_of_section (fun _ => rfl) (fun _ _ => MediaOption.fits_of_decode) readMediaSize
    · have color := map_plain fun item member => by
        obtain ⟨value, read⟩ := exists_of_optional readColor item member
        exact Color.plain_of_decode read
      have duplex := map_plain fun item member => by
        obtain ⟨value, read⟩ := exists_of_optional readDuplex item member
        exact Duplex.plain_of_decode read
      simp [Printer.plain, color, duplex]
  · contradiction

theorem Description.of_decode {json : Json} {description : Description}
    (read : Description.decode? json = some description) :
    description.printer.Fits ∧ description.plain = description := by
  unfold Description.decode? at read
  simp only [Option.bind_eq_bind, Option.bind_eq_some_iff] at read
  obtain ⟨fields, -, read⟩ := read
  split at read
  · simp only [Option.bind_eq_some_iff] at read
    obtain ⟨version, -, printer, readPrinter, same⟩ := read
    cases same
    obtain ⟨value, read⟩ := exists_of_required readPrinter
    obtain ⟨fits, plain⟩ := Printer.of_decode read
    exact ⟨fits, by simp [Description.plain, plain]⟩
  · contradiction

end Decoded

section Written

variable {items : List α}

theorem isWritten_present {members : List (String × Option Json)}
    (written : ∀ member ∈ members, ∀ value ∈ member.2, IsWritten value) :
    IsWritten (.present members) := by
  apply IsWritten.object
  intro member inside
  obtain ⟨field, given, same⟩ := List.mem_filterMap.mp inside
  obtain ⟨value, present, rfl⟩ := Option.map_eq_some_iff.mp same
  exact written field given value present

theorem isWritten_list (written : ∀ item ∈ items, IsWritten (encode item)) :
    IsWritten (encodeList encode items) := by
  apply IsWritten.array
  intro value inside
  obtain ⟨item, given, rfl⟩ := List.mem_map.mp inside
  exact written item given

theorem isWritten_options (written : ∀ item ∈ items, IsWritten (encode item)) :
    IsWritten (encodeOptions encode items) := by
  apply IsWritten.object
  intro member inside
  rw [List.mem_singleton.mp inside]
  exact isWritten_list written

theorem isWritten_single (value : Single) : IsWritten (encodeSingle value) := by
  unfold encodeSingle
  split
  · split
    · exact .decimal (.inr rfl)
    · exact .decimal (Number.Decimal.normal_proper _)
  · exact .null

theorem isWritten_texts (texts : List LocalizedText) : IsWritten (encodeTexts texts) := by
  apply isWritten_list
  intro text _
  apply IsWritten.object
  simp [IsWritten.string]

theorem SpeedOption.isWritten (option : SpeedOption) : IsWritten option.encode := by
  apply isWritten_present
  have types (types : List ColorType) :
      IsWritten (encodeList (fun type => .string type.name) types) :=
    isWritten_list fun type _ => .string type.name
  simp [isWritten_single, types]

theorem SelectOption.isWritten (option : SelectOption) : IsWritten option.encode := by
  apply isWritten_present
  simp [IsWritten.string, IsWritten.bool, isWritten_texts]

theorem TypedValueCapability.isWritten (typedValue : TypedValueCapability) :
    IsWritten typedValue.encode := by
  apply isWritten_present
  simp [IsWritten.string]

theorem VendorCapability.isWritten (capability : VendorCapability) :
    IsWritten capability.encode := by
  apply isWritten_present
  have select (select : SelectCapability) : IsWritten select.encode :=
    isWritten_options fun option _ => option.isWritten
  simp [IsWritten.string, isWritten_texts, select, TypedValueCapability.isWritten]

theorem ColorOption.isWritten (option : ColorOption) : IsWritten option.encode := by
  apply isWritten_present
  simp [IsWritten.string, IsWritten.bool, isWritten_texts]

theorem DuplexOption.isWritten (option : DuplexOption) : IsWritten option.encode := by
  apply IsWritten.object
  simp [IsWritten.string, IsWritten.bool]

theorem MarginsOption.isWritten (option : MarginsOption) : IsWritten option.encode := by
  apply IsWritten.object
  simp [IsWritten.string, IsWritten.bool, IsWritten.whole, Json.int]

theorem DpiOption.isWritten (option : DpiOption) : IsWritten option.encode := by
  apply isWritten_present
  simp [IsWritten.string, IsWritten.bool, IsWritten.whole, Json.int, isWritten_texts]

theorem MediaOption.isWritten (option : MediaOption) : IsWritten option.encode := by
  apply isWritten_present
  simp [IsWritten.string, IsWritten.bool, IsWritten.whole, Json.int, isWritten_texts]

theorem Printer.isWritten (printer : Printer) : IsWritten printer.encode := by
  apply isWritten_present
  have speed (speed : PrintingSpeed) : IsWritten speed.encode :=
    isWritten_options fun option _ => option.isWritten
  have vendor (capabilities : List VendorCapability) :
      IsWritten (encodeList VendorCapability.encode capabilities) :=
    isWritten_list fun capability _ => capability.isWritten
  have color (color : Color) : IsWritten color.encode :=
    isWritten_options fun option _ => option.isWritten
  have duplex (duplex : Duplex) : IsWritten duplex.encode :=
    isWritten_options fun option _ => option.isWritten
  have margins (margins : Margins) : IsWritten margins.encode :=
    isWritten_options fun option _ => option.isWritten
  have dpi (dpi : Dpi) : IsWritten dpi.encode :=
    isWritten_options fun option _ => option.isWritten
  have mediaSize (mediaSize : MediaSize) : IsWritten mediaSize.encode :=
    isWritten_options fun option _ => option.isWritten
  simp [speed, vendor, color, duplex, margins, dpi, mediaSize]

theorem Description.isWritten (description : Description) : IsWritten description.encode := by
  apply IsWritten.object
  simp [IsWritten.string, Printer.isWritten]

end Written

/-- Speeds are neither infinite nor not-a-number, where there are any. -/
def Printer.IsFinite (printer : Printer) : Prop :=
  ∀ speed ∈ printer.printingSpeed, speed.IsFinite

/-- A description is read back from JSON without what stays inside the connector.  One
that was read is read back as it is and written as it was.  The text for a translated
printer is read back as the JSON that it was written for. -/
theorem Description.survives_json :
    (∀ description : Description, description.printer.Fits → description.printer.IsFinite →
      Description.decode? description.encode = some description.plain) ∧
    (∀ (value : Json) (description : Description), Description.decode? value = some description →
      description.printer.IsFinite →
        Description.decode? description.encode = some description ∧
        (Description.decode? description.encode).map Description.encode =
          some description.encode) ∧
    ∀ text : String,
      let description := Description.ofPrinter (Ppd.Translation.ofText text).printer
      Json.parse? (Json.compact description.encode).toList = some description.encode := by
  refine ⟨fun description fits finite => Description.returns fits finite,
    fun value description read finite => ?_, fun text => ?_⟩
  · obtain ⟨fits, plain⟩ := Description.of_decode read
    have again : Description.decode? description.encode = some description := by
      rw [Description.returns fits finite, plain]
    exact ⟨again, by rw [again, Option.map_some]⟩
  · exact Json.parse?_compact (Description.isWritten _)

/-- Speeds in no mode in particular, no vendor capability, and keys that are not
written. -/
def mixedDescription : Description where
  version := "1.0"
  printer := {
    printingSpeed := some ⟨[⟨⟨1095237632⟩, some []⟩, ⟨⟨363742205⟩, none⟩]⟩
    vendorCapabilities := some []
    color := some ⟨[⟨"Gray", .standardMonochrome, true, none⟩], "ColorModel"⟩
    duplex := some ⟨[⟨.noDuplex, true, "None"⟩], "Duplex"⟩
    mediaSize := some ⟨[⟨"", 210000, 297000, false, true, "", some []⟩]⟩ }

/-- A section that is null, one that no description has, and a speed that is rounded. -/
def looseJson : Json :=
  .object [
    ("printer", .object [
      ("dpi", .null),
      ("staples", .bool true),
      ("printing_speed", .object [
        ("option", .array [.object [("speed_ppm", .number (.decimal false ⟨301, -1⟩))]])])]),
    ("version", .string "1.0")]

def looseDescription : Description :=
  .ofPrinter { printingSpeed := some ⟨[⟨⟨1106300109⟩, none⟩]⟩ }

theorem mixedDescription_survives :
    mixedDescription.printer.Fits ∧ mixedDescription.printer.IsFinite ∧
    Description.decode? mixedDescription.encode = some mixedDescription.plain ∧
    Description.decode? looseJson = some looseDescription ∧ looseDescription.printer.IsFinite ∧
    Description.decode? looseDescription.encode = some looseDescription ∧
    let tricky := Description.ofPrinter (Ppd.Translation.ofText "*Manufacturer: \"A\\B\"").printer
    Json.parse? (Json.compact tricky.encode).toList = some tricky.encode := by
  obtain ⟨returns, again, parses⟩ := Description.survives_json
  have fits : mixedDescription.printer.Fits := by
    refine ⟨nofun, nofun, ?_⟩
    rintro mediaSize ⟨⟩ option member
    rw [List.mem_singleton.mp member]
    constructor <;> constructor <;> decide
  have finite : mixedDescription.printer.IsFinite := by
    rintro speed ⟨⟩
    unfold PrintingSpeed.IsFinite
    decide
  have read : Description.decode? looseJson = some looseDescription := by decide +kernel
  have looseFinite : looseDescription.printer.IsFinite := by
    rintro speed ⟨⟩
    unfold PrintingSpeed.IsFinite
    decide
  exact ⟨fits, finite, returns _ fits finite, read, looseFinite, (again _ _ read looseFinite).1,
    parses _⟩

end PrintConnector.Device
