import ProtectionLimits.Exhibit.Container
import ProtectionLimits.Fault.Report
import ProtectionLimits.Kept
import ProtectionLimits.Registry.Call

/-!
Contract: registries whose parts a caller has reached.

Owns an opened registry, which keeps its parts under names and whatever a caller has
put there, and the calls and queries of a registry on such parts. A call asks for each
part when it needs it and not before, and a call that fails leaves behind what it has
done until then. A part that stands under the name of a call hides the call. A registry looks
the same before and after it is opened (`exhibit_opened`).
-/

set_option autoImplicit false

namespace ProtectionLimits.Registry

/-- A registry whose parts a caller has reached, and the objects of the table that it was
made with, as long as it looks positions up among them. -/
structure Opened where
  parts : Kept Exhibit
  identities : Option (List Identity)

/-- The parts of a registry within a caller's reach. -/
def opened (registry : Registry) : Opened where
  parts := Kept.ofNames registry.parts
  identities := some (registry.limits.map Limit.identity)

def positionsPart : String := "_ordinals"

/-- A call under way: the registry as it is by now, the level of the log, and the entries
that came through. -/
structure Progress where
  registry : Opened
  level : Int
  entries : List Log.Entry

/-- The steps of a call. What was done before a fault stands. -/
abbrev Steps (Result : Type) : Type := ExceptT Fault (StateM Progress) Result

namespace Steps

def lift {Result : Type} : Except Fault Result → Steps Result
  | .ok result => pure result
  | .error fault => throw fault

def part (name : String) : Steps Exhibit := do
  match (← get).registry.parts.under? name with
  | some found => pure found
  | none => throw (Kept.missing className name)

def put (name : String) (item : Exhibit) : Steps Unit :=
  modify fun progress =>
    { progress with
      registry := { progress.registry with parts := progress.registry.parts.enter name item } }

/-- Goes on unless a part hides the call of a name. -/
def reach (name : String) : Steps Unit := do
  match (← get).registry.parts.under? name with
  | some screen => throw (.notCallable screen.sort)
  | none => pure ()

def write (event : Event) : Steps Unit := do
  if Log.lets (← get).level event.severity then
    let text ← lift event.text
    modify fun progress =>
      { progress with entries := progress.entries ++ [⟨event.severity, text⟩] }

def memberOf (name : String) (position : Nat) : Steps Exhibit := do
  lift ((← part name).member position)

/-- Puts a member at a position of the part under a name. -/
def replaceIn (name : String) (position : Nat) (item : Exhibit) : Steps Unit := do
  put name (← lift ((← part name).withMember position item))

def membersOf (name : String) : Steps (List Exhibit) := do
  lift (← part name).members

def limitOf (wanted : String) : Exhibit → Steps Limit
  | .limit limit => pure limit
  | other => throw (.attributeMissing other.sort wanted)

/-- What is a state, or the fault for want of the label that a state has. -/
def labelled : Exhibit → Steps State
  | .state state => pure state
  | other => throw (.attributeMissing other.sort "literal")

def keyAt (position : Nat) : Steps Value := do
  pure (← limitOf "key" (← memberOf "limits" position)).key

end Steps

namespace Opened

open Steps

/-! ### The registry as a whole -/

def literal (registry : Opened) : Except Fault String :=
  match registry.parts.under? "secure_processing" with
  | some secure => (secure.written.map registryText).mapError .unwritable
  | none => .error (Kept.missing className "secure_processing")

def size (registry : Opened) : Except Fault Nat :=
  match registry.parts.under? "limits" with
  | some table => table.size
  | none => .error (Kept.missing className "limits")

def exhibit (registry : Opened) : Exhibit :=
  .keeping className (registry.literal.mapError Fault.unwritten) registry.parts

/-- Opening a registry leaves its text as it is. -/
theorem literal_opened (registry : Registry) :
    registry.opened.literal = registry.literal := by
  have held : registry.opened.parts.under? "secure_processing" =
      some (.value registry.secure) := by
    simp [opened, Kept.ofNames, Kept.under?, Registry.parts, Value.lookup?]
  simp only [literal, held, Registry.literal, registryWritten, Exhibit.written]

/-- Opening a registry does not change how it is shown. -/
theorem exhibit_opened (registry : Registry) : registry.opened.exhibit = registry.exhibit := by
  have text : registry.literal.mapError Fault.unwritten = registryWritten registry.secure :=
    Fault.mapError_unwritten _
  rw [exhibit, literal_opened, text]
  simp only [opened, Kept.ofNames, Registry.exhibit, Exhibit.keeper, Exhibit.names]

def give (registry : Opened) (name : String) (value : Value) : Except Fault Opened :=
  (registry.parts.give className .value name value).map fun parts =>
    { parts := parts
      identities :=
        if name = Kept.whole ∨ name = positionsPart then none else registry.identities }

def take (registry : Opened) (name : String) : Except Fault Opened :=
  (registry.parts.take className name).map fun parts =>
    { parts := parts
      identities :=
        if name = Kept.whole ∨ name = positionsPart then none else registry.identities }

def resolve (registry : Opened) : Reference → Except Fault Target
  | .standard name =>
      match StandardLimit.ofName? name with
      | some standard => .ok (.item standard.limit)
      | none => .error (.nameUnknown (.text name))
  | .position position =>
      match registry.parts.under? "limits" with
      | none => .error (Kept.missing className "limits")
      | some table => (table.member position).map fun found => match found with
        | .limit limit => .item limit
        | .value content => .value content
        | other => .value (.text other.literal)
  | .stranger limit => .ok (.stranger limit)
  | .value content => .ok (.value content)

/-! ### Positions -/

/-- The fault of a registry that does not manage what was named. -/
def unmanaged {Result : Type} (target : Target) : Steps Result := do
  throw (.limitUnmanaged target (← get).registry.exhibit)

/-- The last position of the very object that is named, looked up in whatever stands where
positions are looked up. -/
def positionOf (target : Target) : Steps Nat := do
  reach "_ordinal"
  let holder ← part positionsPart
  match (← get).registry.identities, holder.entries?, holder.sequenceMembers? with
  | some identities, _, _ =>
      let found := match target with
        | .item limit => lastPosition? (fun identity => identity == limit.identity) identities
        | _ => none
      match found with
      | some position => pure position
      | none => unmanaged target
  | none, some _, _ => unmanaged target
  | none, none, some _ => throw (.positionOutside (Position.sequenceName holder.sort))
  | none, none, none => throw (.withoutItems holder.sort)

def positionAt (index : Value) : Steps Nat := do
  reach "_check_index"
  match index with
  | .int position =>
      if 0 ≤ position then
        if position < (← lift (← part "limits").size) then pure position.toNat
        else throw (.limitIndex index)
      else throw (.limitIndex index)
  | other => throw (.limitIndex other)

def placeNamed (name : Value) (place : Nat) : List Exhibit → Steps (Option Nat)
  | [] => pure none
  | item :: rest => do
      let limit ← limitOf "api_property" item
      if limit.answersTo name then pure (some place) else placeNamed name (place + 1) rest

def indexOf (name : Value) : Steps Int := do
  reach "get_index"
  match ← placeNamed name 0 (← membersOf "limits") with
  | some position => pure position
  | none => pure (if name.equals (.text entityCountInfo) then entityCountInfoIndex else -1)

/-! ### Changes -/

/-- Whether a state does not come before what stands where a state belongs. -/
def lets (state : State) : Exhibit → Except Fault Bool
  | .state held => .ok (decide (held ≤ state))
  | .value held =>
      let rank : Value := .int state.rank
      if held.isNumeric then .ok (held.isBefore rank || held.equals rank)
      else .error (.notComparable ">=" (.object "State") held.kind)
  | other => .error (.notComparable ">=" (.object "State") other.sort)

def offerAt (position : Nat) (state : State) (value : Value) : Steps Unit := do
  reach "_set_value"
  if ← lift (lets state (← memberOf "states" position)) then
    replaceIn "values" position (.value value)
    replaceIn "states" position (.state state)
    replaceIn "is_set_flags" position (.value (.bool true))
    write (.installed (← keyAt position) value state)
  else
    let key ← keyAt position
    let holder ← labelled (← memberOf "states" position)
    write (.ignored key value state holder)

/-- Offers the limits from a place on their values in secure processing, or their values
by default. -/
def offerInitial (isSecure : Bool) (place : Nat) : List Exhibit → Steps Unit
  | [] => pure ()
  | item :: rest => do
      let limit ← limitOf (if isSecure then "secure_value" else "default_value") item
      offerAt place .secureProcessing (limit.initialValue isSecure)
      offerInitial isSecure (place + 1) rest

/-- Asks for secure processing, or for the values by default. -/
def setSecureProcessing (secure : Value) : Steps Unit := do
  put "secure_processing" (.value secure)
  offerInitial secure.isTrue 0 (← membersOf "limits")

def setByIndex (index : Value) (provenance : Provenance) (setting : Value) : Steps Unit := do
  reach "set_limit_by_index"
  let state ← lift (requireState provenance)
  if addressesEntityCounts index then
    put "entity_count_info" (.value (entityCountsSetting setting))
  else
    let position ← positionAt index
    let limit ← limitOf "api_property" (← memberOf "limits" position)
    let value ← lift (Setting.parse limit.apiProperty setting)
    offerAt position state (.int value)

/-- Sets what a name addresses, and says whether it addresses anything. -/
def setByName (name : Value) (provenance : Provenance) (setting : Value) : Steps Bool := do
  let index ← indexOf name
  if index < 0 then pure false
  else
    setByIndex (.int index) provenance setting
    pure true

def setValue (target : Target) (provenance : Provenance) (value : Value) : Steps Unit := do
  let state ← lift (requireState provenance)
  let value ← lift (requireInteger value)
  offerAt (← positionOf target) state (.int value)

def perform (call : Call Target) : Steps Reply := do
  reach call.name
  match call with
  | .secureProcessing secure => do
      setSecureProcessing secure
      pure .nothing
  | .named name provenance setting => do
      pure (.truth (← setByName name provenance setting))
  | .item target provenance value => do
      setValue target provenance value
      pure .nothing
  | .indexed index provenance setting => do
      setByIndex index provenance setting
      pure .nothing

/-! ### Readings -/

/-- What a part holds for the limit that is named. -/
def heldFor (name : String) (target : Target) : Steps Exhibit := do
  let holder ← part name
  lift (holder.member (← positionOf target))

/-- What a part holds at the position that an index addresses. -/
def heldAt (name : String) (index : Value) : Steps Exhibit := do
  memberOf name (← positionAt index)

def textOf (held : Exhibit) : Steps Reply := do
  pure (.text (← lift (held.displayed.mapError .unwritable)))

def textAt (index : Value) : Steps Reply := do
  reach "get_limit_value_by_index"
  if addressesEntityCounts index then pure (← part "entity_count_info").reply
  else textOf (← heldAt "values" index)

/-- The setting that a name addresses, as text; nothing if it addresses nothing. -/
def textNamed (name : Value) : Steps Reply := do
  let index ← indexOf name
  if index < 0 then pure .nothing else textAt (.int index)

/-- The limits with their values and states, as long as there are all three. -/
def rowReplies : List Exhibit → List Exhibit → List Exhibit → Steps (List Reply)
  | item :: items, value :: values, state :: states => do
      let limit ← limitOf "key" item
      let rest ← rowReplies items values states
      pure (.list [.value limit.key, value.reply, state.reply] :: rest)
  | _, _, _ => pure []

/-- What stands under the keys of the limits, as long as there are limits and values. -/
def enterKeys (entries : List (Limit × Exhibit)) :
    List Exhibit → List Exhibit → Steps (List (Limit × Exhibit))
  | item :: items, value :: values => do
      let limit ← limitOf "key" item
      enterKeys (← lift (enterKeyed entries limit value)) items values
  | _, _ => pure entries

def rows : Steps Reply := do
  let limits ← part "limits"
  let values ← part "values"
  let states ← part "states"
  let limits ← lift limits.members
  let values ← lift values.members
  let states ← lift states.members
  pure (.list (← rowReplies limits values states))

def byKey : Steps Reply := do
  let limits ← part "limits"
  let values ← part "values"
  let limits ← lift limits.members
  let values ← lift values.members
  let entries ← enterKeys [] limits values
  pure (.list (entries.map fun entry => .list [.value entry.1.key, entry.2.reply]))

def reportsEntityCounts : Steps Reply := do
  match ← part "entity_count_info" with
  | .value content => pure (.truth (content.equals (.text yes)))
  | _ => pure (.truth false)

/-- An answer about a limit that is named itself. -/
def answerItem (aspect : ItemAspect) (target : Target) : Steps Reply :=
  match aspect with
  | .value => do pure (← heldFor "values" target).reply
  | .text => do textOf (← heldFor "values" target)
  | .state => do pure (← heldFor "states" target).reply
  | .label => do pure (.text (← labelled (← heldFor "states" target)).label)
  | .isSet => do pure (← heldFor "is_set_flags" target).reply

def answerIndexed (aspect : IndexAspect) (index : Value) : Steps Reply :=
  match aspect with
  | .value => do pure (← heldAt "values" index).reply
  | .text => textAt index
  | .isSet => do pure (← heldAt "is_set_flags" index).reply

def answer (query : Query Target) : Steps Reply := do
  if let some name := query.name? then reach name
  match query with
  | .item aspect target => answerItem aspect target
  | .indexed aspect index => answerIndexed aspect index
  | .indexOf name => do pure (.integer (← indexOf name))
  | .textNamed name => textNamed name
  | .reportsEntityCounts => reportsEntityCounts
  | .items => rows
  | .byKey => byKey
  | .size => do pure (.count (← lift (← get).registry.size))
  | .literal => do pure (.text (← lift (← get).registry.literal))

/-! ### Running a call -/

/-- The outcome of some steps, and how far they came. -/
def run {Result : Type} (registry : Opened) (level : Int) (steps : Steps Result) :
    Except Fault Result × Progress :=
  StateT.run (ExceptT.run steps) ⟨registry, level, []⟩

end Opened

end ProtectionLimits.Registry
