import ProtectionLimits.Options
import ProtectionLimits.Registry.Bootstrap

/-!
Contract: settings for making registries, and those in force by default.

Owns the store of all objects with options, the one among them that holds the
default settings, and the calls that derive settings from a base. An object is
known by its number, so two callers can hold the same one. No call changes an
object but assignment, and deriving settings always makes a new object.
-/

set_option autoImplicit false

namespace ProtectionLimits

/-- All objects with options by number, and the number of the default settings. -/
structure Settings where
  objects : List OptionObject
  defaults : Nat

namespace Settings

def initialObject : OptionObject where
  shape := .settings
  stored := Kept.ofNames (Shape.settings.fields.map fun field => (field.slot, field.initial))

/-- The store at the beginning: the default settings alone. -/
def initial : Settings := ⟨[initialObject], 0⟩

def object? (settings : Settings) (number : Nat) : Option OptionObject :=
  settings.objects[number]?

def defaultObject (settings : Settings) : OptionObject :=
  (settings.object? settings.defaults).getD initialObject

def add (settings : Settings) (object : OptionObject) : Nat × Settings :=
  (settings.objects.length, { settings with objects := settings.objects ++ [object] })

def replace (settings : Settings) (number : Nat) (object : OptionObject) : Settings :=
  { settings with objects := settings.objects.set number object }

def baseKeyword : String := "settings"

/-- What a caller names as the base of new settings. -/
inductive Base where
  | defaults
  | settings (number : Nat)
  | other (given : Exhibit)

/-- The base of new settings: the settings that a caller names, and the default
settings where nothing is named. -/
def base (settings : Settings) : Base → Except Fault OptionObject
  | .defaults => .ok settings.defaultObject
  | .settings number => .ok ((settings.object? number).getD settings.defaultObject)
  | .other given => .error (.settingsBase given)

/-- The name of the place that a call about a class fills itself. -/
def classArgument : String := "cls"

/-- New settings: the base with the options that the other keywords name
changed. -/
def derived (settings : Settings) (base : Base) (keywords : List (String × Value)) :
    Except Fault OptionObject :=
  if (keywords.lookup classArgument).isSome then
    .error (.argumentRepeated (Shape.settings.name ++ ".get_settings()") classArgument)
  else do
    let object ← settings.base base
    object.derive keywords

def updateDefaults (settings : Settings) (base : Base) (keywords : List (String × Value)) :
    Except Fault Settings :=
  if (keywords.lookup classArgument).isSome then
    .error (.argumentRepeated (Shape.settings.name ++ ".update_defaults()") classArgument)
  else
    (settings.derived base keywords).map fun object =>
      let (number, extended) := settings.add object
      { extended with defaults := number }

/-- The store with initial settings as the default settings. -/
def resetDefaults (settings : Settings) : Settings :=
  let (number, extended) := settings.add initialObject
  { extended with defaults := number }

/-! ### Registries from settings -/

def secure (object : OptionObject) : Value :=
  object.optionValue ⟨"secure_processing", .flag, .bool false⟩

def level (object : OptionObject) : Value :=
  object.optionValue ⟨"loglevel", .level, .absent⟩

/-- What a caller passes to make a registry from settings: what settings decide
may not be passed again. -/
structure RegistryRequest where
  table : Table
  source : Source
  names : Value
  keywords : List String

/-- The callee that a fault about a repeated keyword names. -/
def registryCallee : String := "xmllimits.registry.LimitRegistry()"

def creation (object : OptionObject) (request : RegistryRequest) :
    Except Fault Registry.Creation :=
  if request.keywords.contains "self" then
    .error (.argumentRepeated (Shape.settings.name ++ ".get_registry()") "self")
  else match request.keywords.find? fun keyword =>
      keyword == "secure_processing" || keyword == "loglevel" with
  | some keyword => .error (.keywordRepeated registryCallee keyword)
  | none => .ok
      { secure := secure object
        table := request.table
        source := request.source
        names := request.names
        level := level object
        keywords := request.keywords }

def makeRegistry (object : OptionObject) (request : RegistryRequest) (logLevel : Int) :
    Log.Run Registry :=
  match creation object request with
  | .error fault => ⟨logLevel, [], .error fault⟩
  | .ok creation => Registry.create creation logLevel

end Settings

end ProtectionLimits
