import ProtectionLimits.Value

/-!
Contract: the classes of objects with validated options.

Owns the rules that an option can put on its values, classes with any options of their own
and any that they inherit, the label by which an option is referred to, and the three shapes
of object with their options in order, each of which is such a class. Does not own setting
and reading options; `Options` does.
-/

set_option autoImplicit false

namespace ProtectionLimits

/-- What an option demands of its values. -/
inductive OptionRule where
  | flag
  | level
  | free
deriving DecidableEq, Repr

def OptionRule.className : OptionRule → String
  | flag => "BooleanOption"
  | level => "LogLevelOption"
  | free => "Option"

/-- An option: its name, its rule, and the value it has until it is set. -/
structure OptionField where
  name : String
  rule : OptionRule
  initial : Value

/-- The name under which an object keeps the value of an option. -/
def OptionField.slot (field : OptionField) : String := "_" ++ field.name

/-- The shapes of objects with options. -/
inductive Shape where
  | plain
  | data
  | settings
deriving DecidableEq, Repr

/-- Whether a name is reserved for the parts that things of every class have: it stands
between two pairs of underscores. -/
def isReserved (name : String) : Bool := name.startsWith "__" && name.endsWith "__"

/-- A class that brings options along, for itself and for the classes that inherit from it. Where
it is rewritable its options can be changed once they have a value. -/
structure OptionOwner where
  name : String
  isRewritable : Bool

/-- A class of objects with options: its own and those that it inherits, of each the class that
has brought it along, and what else the class keeps under names. Options have names of their own,
and none keeps its value where the things of every class have a part. -/
structure OptionClass where
  name : String
  fields : List OptionField
  ownerOf : OptionField → OptionOwner
  attributes : List (String × Value) := []
  distinct : fields.Pairwise fun left right => left.name ≠ right.name
  slotsUnreserved : ∀ field ∈ fields, isReserved field.slot = false

/-- How messages refer to an option: by the class that has brought it along and by what it is. -/
structure OptionLabel where
  owner : OptionOwner
  field : OptionField

namespace OptionClass

def field? (owner : OptionClass) (name : String) : Option OptionField :=
  owner.fields.find? fun field => field.name == name

def label (owner : OptionClass) (field : OptionField) : OptionLabel := ⟨owner.ownerOf field, field⟩

end OptionClass

namespace Shape

def all : List Shape := [plain, data, settings]

def name : Shape → String
  | plain => "Plain"
  | data => "Data"
  | settings => "LimitSettings"

def fields : Shape → List OptionField
  | plain =>
      [⟨"flag", .flag, .bool false⟩, ⟨"level", .level, .absent⟩, ⟨"text", .free, .text "foo"⟩]
  | data =>
      [⟨"flag", .flag, .bool true⟩, ⟨"level", .level, .text "INFO"⟩, ⟨"text", .free, .absent⟩]
  | settings => [⟨"secure_processing", .flag, .bool false⟩, ⟨"loglevel", .level, .absent⟩]

/-- Whether an option can be changed once it has a value. -/
def isRewritable : Shape → Bool
  | plain => false
  | data => true
  | settings => true

def optionClass (shape : Shape) : OptionClass where
  name := shape.name
  fields := shape.fields
  ownerOf _ := ⟨shape.name, shape.isRewritable⟩
  distinct := by cases shape <;> decide
  slotsUnreserved := by cases shape <;> decide +kernel

def field? (shape : Shape) (name : String) : Option OptionField := shape.optionClass.field? name

/-- An option that is found has the name that was looked for. -/
theorem name_of_field? {shape : Shape} {name : String} {field : OptionField}
    (found : shape.field? name = some field) : field.name = name := by
  have agreement := List.find?_some found
  simpa using agreement

/-- The callee that faults about the arguments of a shape name. -/
def callee (shape : Shape) : String :=
  match shape with
  | plain => shape.name ++ "()"
  | _ => shape.name ++ ".__init__()"

end Shape

end ProtectionLimits
