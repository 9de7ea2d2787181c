import ProtectionLimits.Exhibit

/-!
Contract: what classes and functions keep under names.

Owns the exhibits of constants, the members of enumerations, what a class keeps under a
name, and asking for it through the class or through a member. Of the classes that a
class inherits from, itself in front, the first one that keeps anything under a name
counts.
-/

set_option autoImplicit false

namespace ProtectionLimits.Exhibit

/-! ### Constants -/

/-- A feature as its class or its home keeps it. -/
def keptFeature (owner name : String) : Exhibit :=
  match Feature.kept? owner name with
  | some found => feature found (kind (Class.named owner))
  | none => value .absent

mutual

def ofConstant : Constant → Exhibit
  | .value content => value content
  | .kind className => kind (Class.named className)
  | .feature owner name => keptFeature owner name
  | .tuple members => items .tuple (ofConstants members)
  | .mapping className entries => mapping className (ofEntries entries)
  | .set className members => setOf className (ofConstants members)
  | .shown className literal parts => thing className (.ok literal) (ofParts parts) none

def ofConstants : List Constant → List Exhibit
  | [] => []
  | constant :: rest => ofConstant constant :: ofConstants rest

def ofEntries : List (Value × Constant) → List (Value × Exhibit)
  | [] => []
  | (key, constant) :: rest => (key, ofConstant constant) :: ofEntries rest

def ofParts : List (String × Constant) → List (String × Exhibit)
  | [] => []
  | (name, constant) :: rest => (name, ofConstant constant) :: ofParts rest

end

def constantMapping (entries : List (String × Constant)) : Exhibit :=
  mapping "dict" (names (ofParts entries))

def optionalText (content : String) : Exhibit :=
  if content.isEmpty then value .absent else text content

/-! ### Enumerations -/

/-- The members of an enumeration by their names, in order. -/
def membersOf (known : Class) : List (String × Exhibit) :=
  if known.name == "State" then State.all.map fun member => (member.name, state member)
  else if known.name == "Limit" then
    StandardLimit.all.map fun standard => (standard.name, limit standard.limit)
  else []

def memberValue : Exhibit → Value
  | state shown => .int shown.rank
  | limit shown => .tuple shown.contents
  | _ => .absent

def enumerationKept? (known : Class) (name : String) : Option Exhibit :=
  if (membersOf known).isEmpty then none
  else match name with
    | "_member_names_" =>
        some (value (.list ((membersOf known).map fun member => .text member.1)))
    | "_member_map_" => some (mapping "dict" (names (membersOf known)))
    | "_value2member_map_" =>
        some (mapping "dict" ((membersOf known).map fun member =>
          (memberValue member.2, member.2)))
    | name => (membersOf known).lookup name

/-! ### What a class keeps -/

/-- What a class says about itself. A class that has a feature for that says nothing
else. -/
def descriptionOf (known : Class) : Exhibit :=
  match Feature.kept? known.name "__doc__" with
  | some found =>
      if known.description.isEmpty then feature found (kind known) else text known.description
  | none => optionalText known.description

def optionKept? (known : Class) (name : String) : Option OptionLabel :=
  (Shape.all.find? fun shape => shape.name == known.name).bind fun shape =>
    (shape.field? name).map shape.optionClass.label

def keptIn? (known : Class) (name : String) : Option Exhibit :=
  match name with
  | "__doc__" => some (descriptionOf known)
  | "__module__" => if known.home == "builtins" then none else some (text known.home)
  | "__annotations__" =>
      match known.annotations with
      | some (first :: rest) => some (constantMapping (first :: rest))
      | _ => none
  | "__abstractmethods__" =>
      known.abstractRoutines.map fun routines => setOf "frozenset" (routines.map text)
  | name =>
      (((known.attributes.lookup name).map ofConstant).or
        ((optionKept? known name).map option)).or
          (((known.sortOf? name).map fun sort =>
            feature ⟨sort, known.name, name, .kept⟩ (kind known)).or
              (enumerationKept? known name))

/-- The names of all that a built-in class keeps itself: how members are made, operators,
methods, contents, and at last the description. -/
def builtInNames (known : Class) : List String :=
  let functions := known.functions.map Note.name
  functions.filter (· == "__new__") ++ known.operators ++ known.methods.map Note.name ++
    functions.filter (· != "__new__") ++ (known.members ++ known.data).map Note.name ++
    (if known.data.any fun note => note.name == "__doc__" then [] else ["__doc__"]) ++
    known.attributes.map Prod.fst

def declaredNames (known : Class) : List String :=
  ["__module__", "__doc__", "__annotations__", "__abstractmethods__"] ++
    (known.featureNames.filter fun name => name != "__doc__") ++
    known.attributes.map Prod.fst ++
    (Shape.all.filter fun shape => shape.name == known.name).flatMap (fun shape =>
      shape.fields.map OptionField.name) ++
    (if (membersOf known).isEmpty then []
      else ["_member_names_", "_member_map_", "_value2member_map_"] ++
        (membersOf known).map Prod.fst)

def keptNames (known : Class) : List String :=
  if known.home == "builtins" then builtInNames known else declaredNames known

/-- All that a class keeps itself, as a mapping that can only be read. -/
def keptMapping (known : Class) : Exhibit :=
  mapping "mappingproxy" (names ((keptNames known).filterMap fun name =>
    (keptIn? known name).map fun found => (name, found)))

/-- What is kept as it looks through a class or a member. An option looks like the value
that it begins with, and a function of a class belongs to the class that is asked. -/
def through (access : Access) (asked : Class) (holder : Exhibit) : Exhibit → Exhibit
  | feature shown keeper =>
      feature { shown with access := access }
        (if shown.name == "__new__" then keeper
          else if shown.belongsToClass then kind asked
          else holder)
  | option label => value label.field.initial
  | other => other

/-- What a class or the classes that it inherits from keep under a name, as it looks
through the class or a member. -/
def inherited? (access : Access) (asked : Class) (holder : Exhibit) (name : String) :
    Option Exhibit :=
  asked.lineage.findSome? fun owner =>
    (keptIn? (Class.named owner) name).map (through access asked holder)

end ProtectionLimits.Exhibit
