import ProtectionLimits.Entries
import ProtectionLimits.Kept
import ProtectionLimits.Log

/-!
Contract: objects with validated options.

Owns setting, reading and deleting an option of any class, and objects of the three
shapes. Of an option that a rewritable class has brought along the last accepted value
stands. Of any other option the first accepted value stands, and that an option is taken
is found out before the new value is looked at. A value that is refused is not stored. An
object keeps the value of an option in a slot of its own, and a caller who names the
slot reaches it without any rule; under any other name an object keeps whatever it is
given. The slot of an option can be the name of another one, or of something that the class
keeps: then the option shares what stands there. What a caller gives is a value, never a
class or a description of options. Does not own the settings that are in force by default;
`Settings` does.
-/

set_option autoImplicit false

namespace ProtectionLimits

namespace OptionRule

def check (rule : OptionRule) (label : OptionLabel) (value : Value) : Except Fault Unit :=
  match rule with
  | free => .ok ()
  | flag => match value with
    | .bool _ => .ok ()
    | other => .error (.optionFlagKind other.kind label)
  | level => match value with
    | .absent => .ok ()
    | .int _ => .ok ()
    | .text name => (Log.levelOf (.text name)).map fun _ => ()
    | other => .error (.optionLevelKind other.kind label)

end OptionRule

/-- The value of an option in what an object keeps: the one in its slot, or the one that
it begins with. -/
def OptionField.valueIn (field : OptionField) (kept : Kept Value) : Value :=
  (kept.under? field.slot).getD field.initial

namespace OptionLabel

/-- Whether an option takes a value: it has none yet or can be changed, and the value is one that
it accepts. -/
def accept (label : OptionLabel) (isTaken : Bool) (value : Value) : Except Fault Unit :=
  if isTaken && !label.owner.isRewritable then .error (.optionFixed label)
  else label.field.rule.check label value

def delete (label : OptionLabel) : Except Fault (Kept Value) := .error (.optionUndeletable label)

end OptionLabel

namespace OptionClass

/-- What an object of a class has under a name that is none of an option: what it keeps there
itself, or else what its class keeps there. -/
def held? (owner : OptionClass) (kept : Kept Value) (name : String) : Option Value :=
  (kept.under? name).or (owner.attributes.lookup name)

/-- The value that an object of a class has under a name, up to a depth. An option has what stands
under its slot, and begins with a value where nothing does. -/
def standingWithin (owner : OptionClass) (kept : Kept Value) : Nat → String → Option Value
  | 0, _ => none
  | depth + 1, name =>
      match owner.field? name with
      | none => owner.held? kept name
      | some field => some ((owner.standingWithin kept depth field.slot).getD field.initial)

/-- How many options one name can lead to: the slot of an option has a longer name than the
option, so no option is met twice. -/
def depth (owner : OptionClass) : Nat := owner.fields.length + 1

def standing? (owner : OptionClass) (kept : Kept Value) (name : String) : Option Value :=
  owner.standingWithin kept owner.depth name

def read (owner : OptionClass) (kept : Kept Value) (name : String) : Except Fault Value :=
  match owner.standing? kept name with
  | some value => .ok value
  | none => .error (Kept.missing owner.name name)

/-- What an object of a class keeps with a value given to a name, up to a depth. What an option
takes is given to its slot, which can be the name of an option again. -/
def assignWithin (owner : OptionClass) (kept : Kept Value) (value : Value) :
    Nat → String → Except Fault (Kept Value)
  | 0, _ => .ok kept
  | depth + 1, name =>
      match owner.field? name with
      | none => kept.give owner.name id name value
      | some field => do
          (owner.label field).accept (owner.standing? kept field.slot).isSome value
          owner.assignWithin kept value depth field.slot

/-- What an object of a class keeps with a value given to a name: the value if an option
of this name accepts it. What is no option is given to the object to keep. -/
def assign (owner : OptionClass) (kept : Kept Value) (name : String) (value : Value) :
    Except Fault (Kept Value) :=
  owner.assignWithin kept value owner.depth name

/-- What an object of a class keeps without what it kept under a name. -/
def delete (owner : OptionClass) (kept : Kept Value) (name : String) :
    Except Fault (Kept Value) :=
  match owner.field? name with
  | some field => (owner.label field).delete
  | none => kept.take owner.name name

/-- Values given to names one after the other, up to the first that is refused. -/
def assignAll (owner : OptionClass) (kept : Kept Value) :
    List (String × Value) → Except Fault (Kept Value)
  | [] => .ok kept
  | (name, value) :: rest => do
      let assigned ← owner.assign kept name value
      owner.assignAll assigned rest

end OptionClass

/-- An object with options, and what it keeps: the accepted values of options in
their slots, and anything else under the name that a caller gave it. -/
structure OptionObject where
  shape : Shape
  stored : Kept Value

namespace OptionObject

def stored? (object : OptionObject) (name : String) : Option Value :=
  object.stored.under? name

/-- The value of an option: the one in its slot, or the one that it begins with. -/
def optionValue (object : OptionObject) (field : OptionField) : Value :=
  field.valueIn object.stored

def read (object : OptionObject) (name : String) : Except Fault Value :=
  object.shape.optionClass.read object.stored name

/-- The object with a value accepted for an option, or given to it to keep. -/
def assign (object : OptionObject) (name : String) (value : Value) :
    Except Fault OptionObject :=
  (object.shape.optionClass.assign object.stored name value).map fun stored =>
    { object with stored := stored }

def delete (object : OptionObject) (name : String) : Except Fault OptionObject :=
  (object.shape.optionClass.delete object.stored name).map fun stored =>
    { object with stored := stored }

def values (object : OptionObject) : List (String × Value) :=
  object.shape.fields.map fun field => (field.name, object.optionValue field)

def literal (object : OptionObject) : String :=
  match object.shape with
  | .plain => "<" ++ object.shape.name ++ " object>"
  | _ => object.shape.name ++ "(" ++
      Text.joined ", " (object.values.map fun entry => entry.1 ++ "=" ++ entry.2.literal) ++ ")"

/-- An object as text, unless the text shows an option whose value has none. -/
def written (object : OptionObject) : Written :=
  match object.shape with
  | .plain => .ok object.literal
  | _ => Written.unless (Value.unwritableAmong? (object.values.map Prod.snd)) object.literal

/-- An object as messages show it. Options stand before what is kept. -/
def exhibit (object : OptionObject) : Exhibit :=
  .thing object.shape.name object.written
    (object.values.map (fun entry => (entry.1, .value entry.2)) ++
      [(Kept.whole, .value (.mapping object.stored)), (Kept.references, .value .absent)] ++
      object.stored.names.map fun entry => (entry.1, .value entry.2))
    none

/-- Objects of one rewritable shape are equal when all their options are. -/
def sameOptions (left right : OptionObject) : Bool :=
  left.shape == right.shape && left.shape.isRewritable &&
    Value.equalsAll (left.values.map Prod.snd) (right.values.map Prod.snd)

/-! ### Making objects -/

/-- Keywords assigned to names, the first faulty one reported. A name that is
taken by an earlier argument, and one that is not known, are refused. -/
def refusedKeyword? (shape : Shape) (taken : List String) :
    List (String × Value) → Option Fault
  | [] => none
  | (keyword, _) :: rest =>
      if keyword == "self" || taken.contains keyword then
        some (.argumentRepeated shape.callee keyword)
      else if (shape.field? keyword).isNone then
        some (.keywordUnexpected shape.callee keyword)
      else refusedKeyword? shape taken rest

def argumentFor (shape : Shape) (positional : List Value) (keywords : List (String × Value))
    (field : OptionField) : Value :=
  match (shape.fields.map OptionField.name).zip positional |>.lookup field.name with
  | some value => value
  | none => (keywords.lookup field.name).getD field.initial

/-- Options assigned one after the other, up to the first that is refused. -/
def assignAll (object : OptionObject) (entries : List (String × Value)) :
    Except Fault OptionObject :=
  (object.shape.optionClass.assignAll object.stored entries).map fun stored =>
    { object with stored := stored }

/-- A new object. The options of a rewritable shape are assigned in order; an
object of the other shape takes no arguments and begins with nothing stored. -/
def make (shape : Shape) (positional : List Value) (keywords : List (String × Value)) :
    Except Fault OptionObject :=
  if shape.isRewritable then
    let names := shape.fields.map OptionField.name
    match refusedKeyword? shape (names.take positional.length) keywords with
    | some fault => .error fault
    | none =>
        if names.length < positional.length then
          .error (.argumentsExcess shape.callee 1 (names.length + 1) (positional.length + 1))
        else
          assignAll ⟨shape, []⟩ (shape.fields.map fun field =>
            (field.name, argumentFor shape positional keywords field))
  else if positional.isEmpty && keywords.isEmpty then .ok ⟨shape, []⟩
  else .error (.argumentsRefused shape.callee)

/-- The name of the part by which an object knows its options. -/
def optionsPart : String := "__dataclass_fields__"

/-- A copy of an object with some options changed. An object that keeps something else
where it knows its options by cannot be copied, unless that is empty. -/
def derive (base : OptionObject) (keywords : List (String × Value)) :
    Except Fault OptionObject :=
  match base.stored? optionsPart with
  | none =>
      let kept := base.values.filter fun entry => (keywords.lookup entry.1).isNone
      make base.shape [] (keywords ++ kept)
  | some (.mapping []) => make base.shape [] keywords
  | some (.mapping ((_, first) :: _)) => .error (.attributeMissing first.kind "_field_type")
  | some other => .error (.attributeMissing other.kind "values")

end OptionObject

end ProtectionLimits
