import PrintConnector.Number.Single

/-! Cloud device descriptions: what a printer can do, as the cloud is told.

A description holds one section per capability.  A section that offers choices
is built by `settle`, which leaves exactly one of them as the default.
-/

namespace PrintConnector.Device

open PrintConnector.Number (Single)

/-- A text in one language. -/
structure LocalizedText where
  locale : String
  value : String
deriving DecidableEq, Repr

/-- A display text in the one language that is written. -/
def localized (text : String) : List LocalizedText :=
  [⟨"EN", text⟩]

/-- A value with a flag that marks the default among its neighbours. -/
class Choice (α : Type) where
  isDefault : α → Bool
  withDefault : α → Bool → α
  isDefault_withDefault : ∀ choice flag, isDefault (withDefault choice flag) = flag

/-- Exactly one default: the first choice that is flagged, or the first one. -/
def settle {α : Type} [Choice α] (choices : List α) : List α :=
  let chosen := (choices.findIdx? Choice.isDefault).getD 0
  choices.mapIdx fun index choice => Choice.withDefault choice (index == chosen)

theorem length_settle {α : Type} [Choice α] (choices : List α) :
    (settle choices).length = choices.length := by
  simp [settle]

inductive ColorType where
  | standardColor
  | standardMonochrome
  | customColor
  | customMonochrome
  | auto
deriving DecidableEq, Repr

structure SpeedOption where
  pagesPerMinute : Single
  colorTypes : Option (List ColorType)
deriving DecidableEq, Repr

structure PrintingSpeed where
  options : List SpeedOption
deriving DecidableEq, Repr

inductive VendorCapabilityType where
  | range
  | select
  | typedValue
deriving DecidableEq, Repr

structure SelectOption where
  value : String
  isDefault : Bool
  displayName : Option (List LocalizedText)
deriving DecidableEq, Repr

structure SelectCapability where
  options : List SelectOption
deriving DecidableEq, Repr

inductive TypedValueType where
  | boolean
  | float
  | integer
  | string
deriving DecidableEq, Repr

structure TypedValueCapability where
  valueType : TypedValueType
  default : Option String
deriving DecidableEq, Repr

/-- A capability with no section of its own. -/
structure VendorCapability where
  id : String
  type : VendorCapabilityType
  select : Option SelectCapability
  typedValue : Option TypedValueCapability
  displayName : Option (List LocalizedText)
deriving DecidableEq, Repr

structure ColorOption where
  vendorId : String
  type : ColorType
  isDefault : Bool
  displayName : Option (List LocalizedText)
deriving DecidableEq, Repr

/-- The colour modes.  `vendorKey` is the control they came from; it is never
written. -/
structure Color where
  options : List ColorOption
  vendorKey : String
deriving DecidableEq, Repr

inductive DuplexType where
  | noDuplex
  | longEdge
  | shortEdge
deriving DecidableEq, Repr

/-- A duplex mode.  `vendorId` selects it on the printer; it is never written. -/
structure DuplexOption where
  type : DuplexType
  isDefault : Bool
  vendorId : String
deriving DecidableEq, Repr

structure Duplex where
  options : List DuplexOption
  vendorKey : String
deriving DecidableEq, Repr

inductive MarginsType where
  | borderless
  | standard
  | custom
deriving DecidableEq, Repr

/-- Margins in micrometres. -/
structure MarginsOption where
  type : MarginsType
  top : Int
  right : Int
  bottom : Int
  left : Int
  isDefault : Bool
deriving DecidableEq, Repr

structure Margins where
  options : List MarginsOption
deriving DecidableEq, Repr

structure DpiOption where
  horizontal : Int
  vertical : Int
  isDefault : Bool
  vendorId : String
  displayName : Option (List LocalizedText)
deriving DecidableEq, Repr

structure Dpi where
  options : List DpiOption
deriving DecidableEq, Repr

/-- A sheet size, width and height in micrometres. -/
structure MediaOption where
  name : String
  width : Int
  height : Int
  isContinuousFeed : Bool
  isDefault : Bool
  vendorId : String
  displayName : Option (List LocalizedText)
deriving DecidableEq, Repr

structure MediaSize where
  options : List MediaOption
deriving DecidableEq, Repr

/-- The name of a size outside the standard names. -/
def customMediaName : String := "CUSTOM"

instance : Choice SelectOption where
  isDefault := SelectOption.isDefault
  withDefault choice flag := { choice with isDefault := flag }
  isDefault_withDefault _ _ := rfl

instance : Choice ColorOption where
  isDefault := ColorOption.isDefault
  withDefault choice flag := { choice with isDefault := flag }
  isDefault_withDefault _ _ := rfl

instance : Choice DuplexOption where
  isDefault := DuplexOption.isDefault
  withDefault choice flag := { choice with isDefault := flag }
  isDefault_withDefault _ _ := rfl

instance : Choice MarginsOption where
  isDefault := MarginsOption.isDefault
  withDefault choice flag := { choice with isDefault := flag }
  isDefault_withDefault _ _ := rfl

instance : Choice DpiOption where
  isDefault := DpiOption.isDefault
  withDefault choice flag := { choice with isDefault := flag }
  isDefault_withDefault _ _ := rfl

instance : Choice MediaOption where
  isDefault := MediaOption.isDefault
  withDefault choice flag := { choice with isDefault := flag }
  isDefault_withDefault _ _ := rfl

/-- The settled choices, if there are any. -/
def offer? {α : Type} [Choice α] (choices : List α) : Option (List α) :=
  if choices.isEmpty then none else some (settle choices)

def SelectCapability.ofOptions? (options : List SelectOption) : Option SelectCapability :=
  (offer? options).map SelectCapability.mk

def Color.ofOptions? (options : List ColorOption) (vendorKey : String) : Option Color :=
  (offer? options).map fun options => ⟨options, vendorKey⟩

def Duplex.ofOptions? (options : List DuplexOption) (vendorKey : String) : Option Duplex :=
  (offer? options).map fun options => ⟨options, vendorKey⟩

def Margins.ofOptions? (options : List MarginsOption) : Option Margins :=
  (offer? options).map Margins.mk

def Dpi.ofOptions? (options : List DpiOption) : Option Dpi :=
  (offer? options).map Dpi.mk

def MediaSize.ofOptions? (options : List MediaOption) : Option MediaSize :=
  (offer? options).map MediaSize.mk

/-- A capability that picks one value of a list. -/
def VendorCapability.ofSelect (id displayName : String) (select : SelectCapability) :
    VendorCapability :=
  ⟨id, .select, some select, none, some (localized displayName)⟩

/-- A capability that takes a value of a type. -/
def VendorCapability.ofTypedValue (id displayName : String) (typedValue : TypedValueCapability) :
    VendorCapability :=
  ⟨id, .typedValue, none, some typedValue, some (localized displayName)⟩

/-- The capabilities of a printer, each section there or not. -/
structure Printer where
  printingSpeed : Option PrintingSpeed := none
  vendorCapabilities : Option (List VendorCapability) := none
  color : Option Color := none
  duplex : Option Duplex := none
  margins : Option Margins := none
  dpi : Option Dpi := none
  mediaSize : Option MediaSize := none
deriving DecidableEq, Repr

/-- A device description: a version and a printer. -/
structure Description where
  version : String
  printer : Printer
deriving DecidableEq, Repr

/-- The description of a printer in the version that is written. -/
def Description.ofPrinter (printer : Printer) : Description :=
  ⟨"1.0", printer⟩

end PrintConnector.Device
