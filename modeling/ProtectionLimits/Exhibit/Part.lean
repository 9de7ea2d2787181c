import ProtectionLimits.Exhibit.Kept
import ProtectionLimits.Text.Template

/-!
Contract: the parts of what messages can show.

Owns the names of the parts of each exhibit, and asking for a part. Parts that an
exhibit does not have itself are those that its class keeps for its members; a function
that is bound to something also has the parts of the function alone.
-/

set_option autoImplicit false

namespace ProtectionLimits.Exhibit

open Text.Template (Failure)

/-! ### Classes -/

def kindsOf (classNames : List String) : Exhibit :=
  items .tuple (classNames.map fun name => kind (Class.named name))

def integer (number : Int) : Exhibit := value (.int number)

/-- How a class or a feature is called, if it says so. -/
def signatureOf (signature : Option String) : Exhibit :=
  (signature.map text).getD (value .absent)

/-- The parts that a class has as a thing of its own, ahead of what it keeps. -/
def classOwnPart? (known : Class) (name : String) : Option Exhibit :=
  match name with
  | "__name__" => some (text known.title)
  | "__qualname__" => some (text known.title)
  | "__module__" => some (text known.home)
  | "__doc__" => some (descriptionOf known)
  | "__mro__" => some (kindsOf known.lineage)
  | "__bases__" => some (kindsOf known.bases)
  | "__base__" => some (if known.bases.isEmpty then value .absent
      else kind (Class.named known.mainBase))
  | "__class__" => some (kind (Class.named known.metaclass))
  | "__dict__" => some (keptMapping known)
  | "__text_signature__" => some (signatureOf known.signature)
  | "__basicsize__" => some (integer known.measures.basic)
  | "__itemsize__" => some (integer known.measures.item)
  | "__dictoffset__" => some (integer known.measures.keeping)
  | "__weakrefoffset__" => some (integer known.measures.references)
  | "__flags__" => some (integer known.measures.flags)
  | "__members__" =>
      if known.isEnumeration then some (mapping "mappingproxy" (names (membersOf known)))
      else none
  | _ => none

/-- The parts of a class: its own, what it keeps, and what its class keeps for it. What
is abstract and what is annotated is never inherited. -/
def classPart? (known : Class) (name : String) : Option Exhibit :=
  match name with
  | "__annotations__" => known.annotations.map constantMapping
  | "__abstractmethods__" => keptIn? known name
  | name =>
      ((classOwnPart? known name).or (inherited? .ofClass known (kind known) name)).or
        (inherited? .ofMember (Class.named known.metaclass) (kind known) name)

/-! ### Values and states -/

def integerPart? (number : Int) (name : String) : Option Exhibit :=
  match name with
  | "real" => some (integer number)
  | "numerator" => some (integer number)
  | "imag" => some (integer 0)
  | "denominator" => some (integer 1)
  | _ => none

def memberPart? (enumeration memberName : String) (content : Exhibit) (place : Nat)
    (name : String) : Option Exhibit :=
  match name with
  | "name" => some (text memberName)
  | "_name_" => some (text memberName)
  | "value" => some content
  | "_value_" => some content
  | "_sort_order_" => some (integer place)
  | "__objclass__" => some (kind (Class.named enumeration))
  | _ => none

def memberKept (enumeration memberName : String) (content : Exhibit) (place : Nat)
    (contents : List (String × Exhibit)) : Exhibit :=
  mapping "dict" (names ([("_value_", content), ("_name_", text memberName),
    ("__objclass__", kind (Class.named enumeration))] ++ contents ++
      [("_sort_order_", integer place)]))

def limitContents (shown : Limit) : List (String × Exhibit) :=
  (Limit.contentNames.zip shown.contents).map fun content => (content.1, value content.2)

def limitPart? (shown : Limit) (name : String) : Option Exhibit :=
  match (limitContents shown).lookup name, name with
  | some content, _ => some content
  | none, "__weakref__" => some (value .absent)
  | none, name => match shown.identity with
    | .custom _ =>
        if name = "__dict__" then some (mapping "dict" (names (limitContents shown))) else none
    | .standard standard =>
        let content := value (.tuple shown.contents)
        let place := StandardLimit.all.idxOf standard
        if name = "__dict__" then
          some (memberKept "Limit" standard.name content place (limitContents shown))
        else memberPart? "Limit" standard.name content place name

def statePart? (shown : State) (name : String) : Option Exhibit :=
  match name with
  | "literal" => some (text shown.label)
  | "__dict__" =>
      some (memberKept "State" shown.name (integer shown.rank) shown.rank [])
  | name =>
      (memberPart? "State" shown.name (integer shown.rank) shown.rank name).or
        (integerPart? shown.rank name)

/-! ### Functions -/

def textsOf (content : List String) : Exhibit := value (.tuple (content.map Value.text))

def codeOf (shown : Feature) (routine : Routine) : Exhibit :=
  let code := routine.code
  let name := if code.name.isEmpty then routine.name else code.name
  let title := if code.title.isEmpty then shown.title else code.title
  thing "code" (.ok ("<code object " ++ name ++ ">"))
    ((code.source.map fun source => ("co_filename", text source)).toList ++
      [("co_name", text name), ("co_qualname", text title),
        ("co_argcount", integer code.positional),
        ("co_posonlyargcount", integer code.positionalOnly),
        ("co_kwonlyargcount", integer code.keywordOnly),
        ("co_nlocals", integer code.locals.length), ("co_stacksize", integer code.stack),
        ("co_flags", integer code.flags), ("co_firstlineno", integer code.line),
        ("co_varnames", textsOf code.locals), ("co_names", textsOf code.names),
        ("co_consts", value (.tuple (routine.constants))),
        ("co_freevars", textsOf code.free), ("co_cellvars", textsOf code.cells)]) none

/-- All that stands beside the functions of a home. -/
def homeEntries (name : String) : List (String × Exhibit) :=
  match Home.ofName? name with
  | none => [("__name__", text name)]
  | some home =>
      [("__name__", text name), ("__doc__", optionalText home.description)] ++
        ofParts home.attributes ++
        home.routines.map fun routine => (routine.name, keptFeature name routine.name)

/-- What a function keeps: the function that it stands around, and that it is abstract. -/
def functionKept (shown : Feature) (routine : Routine) : List (String × Exhibit) :=
  (if routine.isOuter then [("__wrapped__", feature shown.core (value .absent))] else []) ++
    if routine.isAbstract then [("__isabstractmethod__", value (.bool true))] else []

/-- What a function shares with the function that it was made by. -/
def sharedOf (shown : Feature) (routine : Routine) : Exhibit :=
  if routine.code.free.isEmpty then value .absent
  else items .tuple (routine.code.free.map fun _ =>
    thing "cell" (.ok "<cell>") [("cell_contents", feature shown.core (value .absent))] none)

def functionPart? (shown : Feature) (routine : Routine) (name : String) : Option Exhibit :=
  match name with
  | "__name__" =>
      some (text (if routine.ownName.isEmpty then routine.name else routine.ownName))
  | "__qualname__" => some (text shown.title)
  | "__module__" => some (text routine.home)
  | "__doc__" => some (optionalText routine.description)
  | "__defaults__" =>
      some ((routine.defaults.map fun defaults => ofConstant (.tuple defaults)).getD
        (value .absent))
  | "__kwdefaults__" =>
      some (if routine.keywordDefaults.isEmpty then value .absent
        else constantMapping routine.keywordDefaults)
  | "__annotations__" => some (constantMapping routine.annotations)
  | "__code__" => some (codeOf shown routine)
  | "__closure__" => some (sharedOf shown routine)
  | "__globals__" => some (mapping "dict" (names (homeEntries routine.home)))
  | "__dict__" => some (mapping "dict" (names (functionKept shown routine)))
  | name => (functionKept shown routine).lookup name

def functionOf (shown : Feature) : Exhibit := feature shown.unbound (value .absent)

/-- The parts of a function that is bound to something, or that a class keeps in a form
of its own. -/
def formPart? (shown : Feature) (routine : Routine) (holder : Exhibit) (name : String) :
    Option Exhibit :=
  match shown.className, name with
  | "method", "__func__" => some (functionOf shown)
  | "method", "__self__" => some holder
  | "method", "__doc__" => functionPart? shown routine name
  | "method", _ => none
  | "property", "fget" => some (functionOf shown)
  | "property", "fset" => some (value .absent)
  | "property", "fdel" => some (value .absent)
  | "property", "__doc__" => functionPart? shown routine name
  | "property", "__isabstractmethod__" => some (value (.bool false))
  | "property", _ => none
  | _, "__func__" => some (functionOf shown)
  | _, "__wrapped__" => some (functionOf shown)
  | _, "__isabstractmethod__" => some (value (.bool routine.isAbstract))
  | _, name =>
      if ["__name__", "__qualname__", "__module__", "__doc__", "__annotations__"].contains name then
        functionPart? shown routine name
      else none

/-! ### Other features and parametric classes -/

/-- The name of a feature with the class in front of it that it looks like a part of. -/
def fullTitle (shown : Feature) (holder : Exhibit) : String :=
  if shown.className = "builtin_function_or_method" && shown.name ≠ Feature.ownerless then
    (match holder with
      | kind known => known.title
      | other => (Class.named other.className).title) ++ "." ++ shown.name
  else shown.title

/-- The parts of a feature that is no function of the library. -/
def builtInPart? (shown : Feature) (holder : Exhibit) (name : String) : Option Exhibit :=
  let className := shown.className
  let isCallable := className != "getset_descriptor" && className != "member_descriptor"
  let isFunction := className == "builtin_function_or_method"
  match name with
  | "__name__" => some (text shown.name)
  | "__qualname__" => some (text (fullTitle shown holder))
  | "__doc__" => some ((shown.note?.map fun note => optionalText note.description).getD
      (value .absent))
  | "__text_signature__" =>
      if isCallable then some (signatureOf (shown.note?.bind Note.signature)) else none
  | "__module__" => if isFunction then some (value .absent) else none
  | "__self__" =>
      if isFunction then
        some (if shown.name = Feature.ownerless then value .absent else holder)
      else if className == "method-wrapper" then some holder
      else none
  | "__objclass__" =>
      if isFunction || className == "staticmethod" then none
      else some (kind (Class.named shown.owner))
  | _ => none

def featurePart? (shown : Feature) (holder : Exhibit) (name : String) : Option Exhibit :=
  match shown.routine? with
  | none => builtInPart? shown holder name
  | some routine =>
      if shown.className == "function" then functionPart? shown routine name
      else formPart? shown routine holder name

def parametricPart? (origin : Class) (key : Value) (name : String) : Option Exhibit :=
  match name with
  | "__class__" => some (kind Class.parametrics)
  | "__origin__" => some (kind origin)
  | "__args__" => some (value (.tuple [key]))
  | "__parameters__" => some (value (.tuple []))
  | "__unpacked__" => some (value (.bool false))
  | "__typing_unpacked_tuple_args__" => some (value .absent)
  | name =>
      if ["__mro_entries__", "__reduce__", "__reduce_ex__"].contains name then
        inherited? .ofMember Class.parametrics (parametric origin key) name
      else classPart? origin name

/-! ### All exhibits -/

/-- The parts of an option. An option that demands nothing keeps nothing else. -/
def optionPart? (label : OptionLabel) (name : String) : Option Exhibit :=
  match name with
  | "_name" => some (text label.field.slot)
  | "_owner" => some (kind (Class.named label.owner.name))
  | "_default" => some (value label.field.initial)
  | "__dict__" => if label.field.rule = .free then none else some (mapping "dict" [])
  | "__weakref__" => if label.field.rule = .free then none else some (value .absent)
  | _ => none

def ownPart? (exhibit : Exhibit) (name : String) : Option Exhibit :=
  match exhibit with
  | value (.number quantity) =>
      if name = "real" then some (value (.number quantity))
      else if name = "imag" then some (value (.number (.finite false 0 0)))
      else none
  | value content => content.integer?.bind fun number => integerPart? number name
  | state shown => statePart? shown name
  | limit shown => limitPart? shown name
  | items _ _ => none
  | thing _ _ parts _ => parts.lookup name
  | option label => optionPart? label name
  | kind known => classPart? known name
  | parametric origin key => parametricPart? origin key name
  | feature shown holder => featurePart? shown holder name

def memberOfClass? (exhibit : Exhibit) (known : Class) (name : String) : Option Exhibit :=
  if name = "__class__" then some (kind known) else inherited? .ofMember known exhibit name

/-- How it is said that a class lacks a part. Enumerations are brief. -/
def classLacks (known : Class) (name : String) : Failure :=
  if known.isEnumeration || name = "__abstractmethods__" then .memberMissing name
  else .classPartMissing known.name name

def partOfClass (known : Class) (name : String) : Except Failure Exhibit :=
  match classPart? known name with
  | some part => .ok part
  | none => .error (classLacks known name)

/-- A part that neither an exhibit nor its class has. A bound function passes the question
on to the function, and a general class with classes for its items to the class, unless
the name is reserved. -/
def passedOn (exhibit : Exhibit) (name : String) : Except Failure Exhibit :=
  match exhibit with
  | thing "_SpecialForm" _ _ _ => .error (.memberMissing name)
  | thing "_UnionGenericAlias" _ _ _ => .error (.memberMissing name)
  | thing "_GenericAlias" _ parts _ =>
      match parts.lookup "__origin__" with
      | some (kind known) =>
          if isReserved name then .error (.memberMissing name) else partOfClass known name
      | _ => .error (.memberMissing name)
  | feature shown _ =>
      match shown.routine?, shown.className with
      | some routine, "method" => match functionPart? shown.unbound routine name with
        | some part => .ok part
        | none => .error (.partMissing "function" name)
      | _, className => .error (.partMissing className name)
  | other => .error (.partMissing other.className name)

/-- A part of what is no class: its own, or that of its class. -/
def partOfMember (exhibit : Exhibit) (name : String) : Except Failure Exhibit :=
  let ofClass? := memberOfClass? exhibit (Class.named exhibit.className) name
  match (exhibit.ownPart? name).or ofClass? with
  | some part => .ok part
  | none => passedOn exhibit name

/-- The names of the parts that a class of containers with the classes of its items has
itself. All other parts are those of the class of containers. -/
def containerNames : List String :=
  ["__class__", "__origin__", "__args__", "__parameters__", "__unpacked__",
    "__typing_unpacked_tuple_args__", "__mro_entries__", "__reduce__", "__reduce_ex__",
    "__copy__", "__deepcopy__"]

/-- A part of an exhibit. There are no references to a state, although its class knows
them. -/
def part (exhibit : Exhibit) (name : String) : Except Failure Exhibit :=
  match exhibit with
  | kind known => partOfClass known name
  | thing "types.GenericAlias" written parts entries =>
      match containerNames.contains name, parts.lookup "__origin__" with
      | false, some (kind known) => partOfClass known name
      | _, _ => partOfMember (thing "types.GenericAlias" written parts entries) name
  | parametric origin key => match parametricPart? origin key name with
    | some part => .ok part
    | none => .error (classLacks origin name)
  | state shown =>
      if name = "__weakref__" then .error .referencesMissing else partOfMember (state shown) name
  | other => partOfMember other name

end ProtectionLimits.Exhibit
