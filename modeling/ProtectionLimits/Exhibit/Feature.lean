import ProtectionLimits.Exhibit.Class.Collections
import ProtectionLimits.Exhibit.Class.Containers
import ProtectionLimits.Exhibit.Class.Enumerations
import ProtectionLimits.Exhibit.Class.Errors
import ProtectionLimits.Exhibit.Class.Features
import ProtectionLimits.Exhibit.Class.Numbers
import ProtectionLimits.Exhibit.Class.Objects
import ProtectionLimits.Exhibit.Class.Options
import ProtectionLimits.Exhibit.Class.Patterns
import ProtectionLimits.Exhibit.Class.Registries
import ProtectionLimits.Exhibit.Class.Sources
import ProtectionLimits.Exhibit.Class.Texts
import ProtectionLimits.Exhibit.Class.Trackers
import ProtectionLimits.Exhibit.Home
import ProtectionLimits.Exhibit.Operator
import ProtectionLimits.Value.Literal

/-!
Contract: the features that classes give to their members.

Owns all classes, the sorts of features, finding a feature, the class of a feature and
its literal form. A feature looks different as its class keeps it, through the class,
and through a member. The functions of a home are features of it and have no members.
-/

set_option autoImplicit false

namespace ProtectionLimits

/-- The sorts of features. A core is the function inside an outer one. -/
inductive FeatureSort where
  | method
  | operator
  | datum
  | stored
  | function
  | routine (sort : RoutineSort)
  | core
deriving DecidableEq, Repr

/-- How a feature is reached: as its class keeps it, through a class, or through a
member. -/
inductive Access where
  | kept
  | ofClass
  | ofMember
deriving DecidableEq, Repr

/-- A feature: its sort, the class or the home that has it, its name, and how it is
reached. -/
structure Feature where
  sort : FeatureSort
  owner : String
  name : String
  access : Access
deriving DecidableEq, Repr

namespace Class

def all : List Class :=
  allObjects ++ allNumbers ++ allTexts ++ allContainers ++ allFeatures ++ allEnumerations ++
    allPatterns ++ allCollections ++ allRegistries ++ allSources ++ allTrackers ++
    allOptions ++ allErrors

def ofName? (name : String) : Option Class := all.find? fun known => known.name == name

/-- The class of a name. A class that is not known is a caller's. -/
def named (name : String) : Class := (ofName? name).getD (unknown name)

def noteNamed? (notes : List Note) (name : String) : Option Note :=
  notes.find? fun note => note.name == name

def routineNamed? (routines : List Routine) (name : String) : Option Routine :=
  routines.find? fun routine => routine.name == name

def sortOf? (known : Class) (name : String) : Option FeatureSort :=
  if (noteNamed? known.methods name).isSome then some .method
  else if known.operators.contains name then some .operator
  else if (noteNamed? known.data name).isSome then some .datum
  else if (noteNamed? known.members name).isSome then some .stored
  else if (noteNamed? known.functions name).isSome then some .function
  else (routineNamed? known.routines name).map fun routine => .routine routine.sort

def featureNames (known : Class) : List String :=
  (known.methods ++ known.data ++ known.members ++ known.functions).map Note.name ++
    known.operators ++ known.routines.map Routine.name

end Class

namespace Feature

/-- The feature that a class or a home keeps under a name. -/
def kept? (owner name : String) : Option Feature :=
  match Home.ofName? owner with
  | some home =>
      (Class.routineNamed? home.routines name).map fun routine =>
        ⟨.routine routine.sort, owner, name, .kept⟩
  | none => ((Class.named owner).sortOf? name).map fun sort => ⟨sort, owner, name, .kept⟩

/-- What is noted of a feature that is no function of the library. -/
def note? (feature : Feature) : Option Note :=
  let owner := Class.named feature.owner
  match feature.sort with
  | .method => Class.noteNamed? owner.methods feature.name
  | .operator => Class.noteNamed? Class.operatorNotes feature.name
  | .datum => Class.noteNamed? owner.data feature.name
  | .stored => Class.noteNamed? owner.members feature.name
  | .function => Class.noteNamed? owner.functions feature.name
  | _ => none

def routine? (feature : Feature) : Option Routine :=
  match feature.sort with
  | .core => Class.routineNamed? (Class.named feature.owner).cores feature.name
  | .routine _ => match Home.ofName? feature.owner with
    | some home => Class.routineNamed? home.routines feature.name
    | none => Class.routineNamed? (Class.named feature.owner).routines feature.name
  | _ => none

/-- The function inside an outer one. -/
def core (feature : Feature) : Feature := { feature with sort := .core, access := .ofClass }

def unbound (feature : Feature) : Feature :=
  { feature with
    sort := if feature.sort = .core then .core else .routine .plain
    access := .ofClass }

/-- Whether a function belongs to the class that it is asked of, and not to members. -/
def belongsToClass (feature : Feature) : Bool :=
  feature.sort = .function || feature.sort = .routine .ofClass

/-- The name that a class of texts has for a function without an owner. -/
def ownerless : String := "maketrans"

def className (feature : Feature) : String :=
  match feature.sort, feature.access with
  | .method, .ofMember => "builtin_function_or_method"
  | .method, _ => "method_descriptor"
  | .operator, .ofMember => "method-wrapper"
  | .operator, _ => "wrapper_descriptor"
  | .datum, _ => "getset_descriptor"
  | .stored, _ => "member_descriptor"
  | .function, .kept =>
      if feature.name == "__new__" then "builtin_function_or_method"
      else if feature.name == ownerless then "staticmethod"
      else "classmethod_descriptor"
  | .function, _ => "builtin_function_or_method"
  | .routine .plain, .ofMember => "method"
  | .routine .ofClass, .kept => "classmethod"
  | .routine .ofClass, _ => "method"
  | .routine .static, .kept => "staticmethod"
  | .routine .property, _ => "property"
  | _, _ => "function"

/-- The name of a feature with its owner before it, unless the owner is a home. -/
def title (feature : Feature) : String :=
  let owned := (Class.named feature.owner).title ++ "."
  match feature.routine? with
  | none => owned ++ feature.name
  | some routine =>
      let name := if routine.ownName.isEmpty then routine.name else routine.ownName
      if !routine.title.isEmpty then routine.title
      else if (Home.ofName? feature.owner).isSome then name
      else owned ++ name

/-- A feature as messages show it, with what it is bound to and the name of its class. Only a
bound function needs the text of what it is bound to. -/
def written (feature : Feature) (holder : Written) (holderClass : String) : Written :=
  let of (what : String) : String :=
    "<" ++ what ++ " '" ++ feature.name ++ "' of '" ++ feature.owner ++ "' objects>"
  let function := "<function " ++ feature.title ++ ">"
  match feature.className with
  | "method_descriptor" => .ok (of "method")
  | "classmethod_descriptor" => .ok (of "method")
  | "wrapper_descriptor" => .ok (of "slot wrapper")
  | "getset_descriptor" => .ok (of "attribute")
  | "member_descriptor" => .ok (of "member")
  | "builtin_function_or_method" =>
      .ok ("<built-in method " ++ feature.name ++ " of " ++ holderClass ++ " object>")
  | "method-wrapper" =>
      .ok ("<method-wrapper '" ++ feature.name ++ "' of " ++ holderClass ++ " object>")
  | "method" => holder.map fun text => "<bound method " ++ feature.title ++ " of " ++ text ++ ">"
  | "classmethod" => .ok ("<classmethod(" ++ function ++ ")>")
  | "staticmethod" => .ok ("<staticmethod(" ++ function ++ ")>")
  | "property" => .ok "<property object>"
  | _ => .ok function

end Feature

end ProtectionLimits
