import ProtectionLimits.Exhibit.Part
import ProtectionLimits.Layout.Whole

/-!
Contract: the items of what messages can show, and laying exhibits out.

Owns asking a sequence for a position and a mapping for a key, the steps of a path
from an exhibit, and the layout of each exhibit. Sequences only have positions, and
there is no counting from the end.
-/

set_option autoImplicit false

namespace ProtectionLimits.Exhibit

open Text.Template (Failure Step)

def itemAt (sequence : Kind) (exhibits : List Exhibit) (position : Nat) :
    Except Failure Exhibit :=
  match exhibits[position]? with
  | some exhibit => .ok exhibit
  | none => .error (.positionOutside sequence.name)

def sequence? : Value → Option (List Exhibit)
  | .text content => some (content.toList.map fun character => text character.toString)
  | .bytes content => some (content.map fun byte => value (.int byte.toNat))
  | .list content => some (content.map value)
  | .tuple content => some (content.map value)
  | _ => none

def entry (entries : List (Value × Exhibit)) (key : Value) : Except Failure Exhibit :=
  match entries.find? fun candidate => key.equals candidate.1 with
  | some found => .ok found.2
  | none => .error (.keyMissing key.literal)

/-- The classes whose members, and those of the classes that inherit from them, are
containers of some class. -/
def containerClasses : List String :=
  ["list", "tuple", "dict", "set", "frozenset", "mappingproxy", "Iterable", "Container", "Field"]

/-- Whether a general class leaves open which class it is about. -/
def isOpen (known : Class) : Bool :=
  match inherited? .ofClass known (kind known) "__parameters__" with
  | some (items _ (_ :: _)) => true
  | _ => false

def classArgument : Value → Constant
  | .text name => .forwardName name
  | other => .value other

def generalItem (known : Class) (key : Value) : Exhibit :=
  let argument := classArgument key
  ofConstant (.general (known.path ++ "[" ++ (ofConstant argument).literal ++ "]") .absent
    known.title known.home (.kind known.name) [argument] [])

/-- What a class has under a key. Enumerations have their members there, and classes
of containers and open general classes take a class for their items. -/
def classItem (known : Class) (key : Value) : Except Failure Exhibit :=
  if known.isEnumeration then entry (names (membersOf known)) key
  else if known.name == "type" || known.lineage.any containerClasses.contains then
    .ok (parametric known key)
  else if known.name == "Generic" || known.name == "Protocol" then
    .error (.parametersRefused known.name)
  else if known.lineage.contains "Generic" then
    if isOpen known then .ok (generalItem known key)
    else .error (.parametricWithoutItems known.literal)
  else .error (.classWithoutItems known.name)

/-- What comes of a text that a failure shows. -/
def failing (written : Written) (failure : String → Failure) : Failure :=
  match written with
  | .ok text => failure text
  | .error reason => .unwritable reason

/-- What a thing without entries has under a key: nothing, although it is said in other
words of classes with classes for their items. -/
def lacksItems (className : String) (written : Written) (parts : List (String × Exhibit)) :
    Failure :=
  if ["_GenericAlias", "_UnionGenericAlias", "types.GenericAlias"].contains className then
    match parts.lookup "__origin__" with
    | some (kind known) =>
        if known.name == "Generic" then failing written .parametricTwice
        else failing written .parametricWithoutItems
    | _ => failing written .parametricWithoutItems
  else .withoutItems className

/-- An item of an exhibit by its position or its key. Sequences only have positions. -/
def item (exhibit : Exhibit) (key : Value) : Except Failure Exhibit :=
  let among (sequence : Kind) (exhibits : List Exhibit) : Except Failure Exhibit :=
    match key with
    | .int position => itemAt sequence exhibits position.toNat
    | _ => .error (.keyRefused sequence.name)
  match exhibit with
  | value (.mapping entries) => entry (entries.map fun item => (item.1, value item.2)) key
  | value content => match sequence? content with
    | some exhibits => among content.kind exhibits
    | none => .error (.withoutItems content.kind.name)
  | items sequence exhibits => among sequence exhibits
  | thing _ _ _ (some entries) => entry entries key
  | thing "_SpecialForm" (.ok "typing.Union") _ none => .ok (ofConstant (classArgument key))
  | thing className written parts none => .error (lacksItems className written parts)
  | kind known => classItem known key
  | parametric origin given =>
      .error (failing (parametricWritten origin given) .parametricWithoutItems)
  | other => .error (.withoutItems other.className)

def follow (exhibit : Exhibit) : Step → Except Failure Exhibit
  | .part name => exhibit.part name
  | .position position => exhibit.item (.int position)
  | .key key => exhibit.item (.text key)
  | .failure failure => .error failure

/-! ### Layouts -/

def placed (outcome : Except Layout.Failure String) : Except Failure String :=
  match outcome with
  | .ok text => .ok text
  | .error failure => .error (.layout failure)

/-- An exhibit in the layout of a notation that is not empty. Texts, numbers and
members of enumerations can be laid out, and nothing else. -/
def laidOut (exhibit : Exhibit) (spelling : List Char) : Except Failure String :=
  match exhibit with
  | value (.text content) => placed (Layout.text spelling content)
  | value (.number quantity) => placed (Layout.fractional spelling quantity)
  | value content => match content.integer? with
    | some integer => placed (Layout.whole content.kind.name spelling integer)
    | none => .error (.layoutUnsupported content.kind.name)
  | state shown => placed (Layout.whole "State" spelling shown.rank)
  | limit shown => match shown.identity with
    | .standard _ => placed (Layout.text spelling shown.display)
    | .custom _ => .error (.layoutUnsupported exhibit.className)
  | other => .error (.layoutUnsupported other.className)

end ProtectionLimits.Exhibit
