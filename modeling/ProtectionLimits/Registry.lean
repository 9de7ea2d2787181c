import ProtectionLimits.Log
import ProtectionLimits.Position
import ProtectionLimits.Setting
import ProtectionLimits.Source

/-!
Contract: the registry of limits and the gate in front of every value.

Owns the rows of a registry, the gate that lets a setting through or turns it
away, the resolution of names, indexes and items to positions, and the calls
that change a registry. A row keeps its limit for good; only its value, its
state and its flag change, and only through the gate. Every gated setting is
recorded as an event. Does not own how a registry begins; `Registry.Bootstrap`
does.
-/

set_option autoImplicit false

namespace ProtectionLimits

def integerPart : Value → Except Fault Int
  | .int value => .ok value
  | .bool truth => .ok (if truth then 1 else 0)
  | .number quantity =>
      match quantity.truncated? with
      | some value => .ok value
      | none => .error (.integerPartMissing quantity)
  | other => .error (.notReal other.kind)

/-- What happens to a limit: a setting is loaded at the beginning, let through
the gate, or turned away. -/
inductive Event where
  | loaded (key : Value) (value : Int) (state : State) (name : Value)
  | installed (key value : Value) (state : State)
  | ignored (key value : Value) (state holder : State)

namespace Event

/-- Loading is reported to everyone who follows the log, the gate only to those
who look closely. -/
def severity : Event → Severity
  | loaded .. => .info
  | installed .. => .debug
  | ignored .. => .debug

/-- An event as it stands in the log. Values are shown as integers there, so one
that has no integer part cannot be shown. An entry has all digits of its integers; that
whoever shows it may refuse to show so many is not the log's affair. -/
def text : Event → Except Fault String
  | loaded key value state name =>
      .ok ("Limit " ++ key.literal ++ " set to " ++ Decimal.integer value ++ " from " ++
        state.label ++ " " ++ name.literal)
  | installed key value state =>
      (integerPart value).map fun shown =>
        "Limit " ++ key.literal ++ " set to " ++ Decimal.integer shown ++ " by " ++ state.label
  | ignored key value state holder =>
      (integerPart value).map fun shown =>
        "Setting " ++ Decimal.integer shown ++ " by " ++ state.label ++ " for limit " ++
          key.literal ++ " ignored, the current value is set by " ++ holder.label

/-- Events written at a level of the log, up to the first that cannot be shown,
and how many there are before it if there is one. -/
def writeAll (level : Int) : List Event → List Log.Entry × Option (Nat × Fault)
  | [] => ([], none)
  | event :: rest =>
      let (entries, stopped) := writeAll level rest
      let later := (entries, stopped.map fun (count, fault) => (count + 1, fault))
      if Log.lets level event.severity then
        match event.text with
        | .ok text => (⟨event.severity, text⟩ :: later.1, later.2)
        | .error fault => ([], some (0, fault))
      else later

end Event

/-- A limit with its value, the state of the setting that gave the value, and
whether any setting has passed the gate. -/
structure Row where
  limit : Limit
  value : Value
  state : State
  isSet : Bool

namespace Row

def initial (secure : Bool) (limit : Limit) : Row where
  limit := limit
  value := limit.initialValue secure
  state := if secure then .secureProcessing else .default
  isSet := false

/-- The gate: a setting is let through unless its state comes before the state
of the row. -/
def offer (row : Row) (state : State) (value : Value) : Row :=
  if row.state ≤ state then { row with value := value, state := state, isSet := true } else row

def verdict (row : Row) (state : State) (value : Value) : Event :=
  if row.state ≤ state then .installed row.limit.key value state
  else .ignored row.limit.key value state row.state

theorem offer_of_le {row : Row} {state : State} (accepted : row.state ≤ state) (value : Value) :
    row.offer state value = { row with value := value, state := state, isSet := true } := by
  rw [offer, if_pos accepted]

theorem offer_of_not_le {row : Row} {state : State} (rejected : ¬ row.state ≤ state)
    (value : Value) : row.offer state value = row := by
  rw [offer, if_neg rejected]

/-- The gate never lowers the state of a row. -/
theorem state_le_offer (row : Row) (state : State) (value : Value) :
    row.state ≤ (row.offer state value).state := by
  by_cases accepted : row.state ≤ state
  · rw [offer_of_le accepted]
    exact accepted
  · rw [offer_of_not_le accepted]
    exact Nat.le_refl row.state.rank

@[simp] theorem limit_offer (row : Row) (state : State) (value : Value) :
    (row.offer state value).limit = row.limit := by
  unfold offer
  split <;> rfl

end Row

/-- A registry: its rows in table order, the setting for the report of entity
counts, what the caller last passed for secure processing, and the source and the
former names that it began with. Of the source only its look is kept. -/
structure Registry where
  rows : List Row
  entityCounts : Value
  secure : Value
  source : Exhibit
  names : Value

/-- A registry after a change, and the events of the change. -/
structure Change where
  registry : Registry
  events : List Event

/-- What a caller names to address one limit. -/
inductive Reference where
  | standard (name : String)
  | position (position : Int)
  | stranger (limit : Limit)
  | value (content : Value)

namespace Registry

def limits (registry : Registry) : List Limit := registry.rows.map Row.limit

def className : String := "LimitRegistry"

/-- What a registry keeps, as messages show it. -/
def parts (registry : Registry) : List (String × Exhibit) :=
  [("secure_processing", .value registry.secure),
    ("limits", .items .tuple (registry.limits.map Exhibit.limit)),
    ("config", registry.source),
    ("legacy_names", .value registry.names),
    ("_ordinals", .thing "dict" (.ok "\x7b\x7d") [] (some [])),
    ("values", .value (.list (registry.rows.map Row.value))),
    ("states", .items .list (registry.rows.map fun row => .state row.state)),
    ("is_set_flags", .value (.list (registry.rows.map fun row => .bool row.isSet))),
    ("entity_count_info", .value registry.entityCounts)]

def exhibit (registry : Registry) : Exhibit :=
  .keeper className (registryWritten registry.secure) registry.parts

/-! ### Positions -/

def lastPosition? {Item : Type} (test : Item → Bool) : List Item → Option Nat
  | [] => none
  | item :: rest =>
      match lastPosition? test rest with
      | some position => some (position + 1)
      | none => if test item then some 0 else none

def firstPosition? {Item : Type} (test : Item → Bool) : List Item → Option Nat
  | [] => none
  | item :: rest =>
      if test item then some 0 else (firstPosition? test rest).map (· + 1)

def resolve (registry : Registry) : Reference → Except Fault Target
  | .standard name =>
      match StandardLimit.ofName? name with
      | some standard => .ok (.item standard.limit)
      | none => .error (.nameUnknown (.text name))
  | .position position => (Position.itemAt "tuple" registry.limits position).map .item
  | .stranger limit => .ok (.stranger limit)
  | .value content => .ok (.value content)

/-- The last position of the very object that is named. Equal contents are not
enough. -/
def positionOf (registry : Registry) (target : Target) : Except Fault Nat :=
  let found := match target with
    | .item limit => lastPosition? (fun row => row.limit.identity == limit.identity) registry.rows
    | _ => none
  match found with
  | some position => .ok position
  | none => .error (.limitUnmanaged target registry.exhibit)

/-- The position that an index addresses. There is no counting from the end. -/
def positionAt (registry : Registry) : Value → Except Fault Nat
  | .int index =>
      if 0 ≤ index ∧ index < registry.rows.length then .ok index.toNat
      else .error (.limitIndex (.int index))
  | other => .error (.limitIndex other)

def addressesEntityCounts (index : Value) : Bool :=
  index.equals (.int entityCountInfoIndex)

/-- The index of a name: the first limit that answers to it, then the report of
entity counts, and minus one for any other name. -/
def indexOf (registry : Registry) (name : Value) : Int :=
  match firstPosition? (fun row => row.limit.answersTo name) registry.rows with
  | some position => position
  | none => if name.equals (.text entityCountInfo) then entityCountInfoIndex else -1

/-! ### Changes -/

def offerAt (registry : Registry) (position : Nat) (state : State) (value : Value) : Change :=
  match registry.rows[position]? with
  | some row =>
      { registry := { registry with rows := registry.rows.set position (row.offer state value) }
        events := [row.verdict state value] }
  | none => { registry := registry, events := [] }

def requireState : Provenance → Except Fault State
  | .state state => .ok state
  | .other value => .error (.stateKind value.kind)

/-- Offers every row its value in secure processing, or its value by default. -/
def setSecureProcessing (registry : Registry) (secure : Value) : Change where
  registry :=
    { registry with
      rows := registry.rows.map fun row =>
        row.offer .secureProcessing (row.limit.initialValue secure.isTrue)
      secure := secure }
  events := registry.rows.map fun row =>
    row.verdict .secureProcessing (row.limit.initialValue secure.isTrue)

/-- The setting for the report of entity counts: a text as it is, and anything
else as a request for the report. -/
def entityCountsSetting : Value → Value
  | .text content => .text content
  | _ => .text yes

/-- Sets what an index addresses. The state is checked first, then the index,
then the setting, and nothing changes before all three are accepted. -/
def setByIndex (registry : Registry) (index : Value) (provenance : Provenance)
    (setting : Value) : Except Fault Change := do
  let state ← requireState provenance
  if addressesEntityCounts index then
    pure { registry := { registry with entityCounts := entityCountsSetting setting }, events := [] }
  else
    let position ← registry.positionAt index
    let property := (registry.limits[position]?).elim Value.absent Limit.apiProperty
    let value ← Setting.parse property setting
    pure (registry.offerAt position state (.int value))

/-- Sets what a name addresses, and says whether it addresses anything. -/
def setByName (registry : Registry) (name : Value) (provenance : Provenance)
    (setting : Value) : Except Fault (Bool × Change) :=
  let index := registry.indexOf name
  if index < 0 then .ok (false, { registry := registry, events := [] })
  else (registry.setByIndex (.int index) provenance setting).map fun change => (true, change)

def requireInteger : Value → Except Fault Int
  | .int value => .ok value
  | other => .error (.valueKind other.kind)

/-- Sets the value of a limit. The value is taken as it is, below zero too. -/
def setValue (registry : Registry) (target : Target) (provenance : Provenance)
    (value : Value) : Except Fault Change := do
  let state ← requireState provenance
  let value ← requireInteger value
  let position ← registry.positionOf target
  pure (registry.offerAt position state (.int value))

/-- What is left of a change of all rows that stops behind some of them. -/
def stopBehind (before after : Registry) (count : Nat) : Registry :=
  { after with rows := after.rows.take count ++ before.rows.drop count }

/-! ### What changes leave alone -/

theorem limits_offerAt (registry : Registry) (position : Nat) (state : State) (value : Value) :
    (registry.offerAt position state value).registry.limits = registry.limits := by
  unfold offerAt
  split
  case h_1 row found =>
      obtain ⟨inside, held⟩ := List.getElem?_eq_some_iff.1 found
      apply List.ext_getElem
      · simp [limits]
      · intro place left right
        by_cases same : position = place
        · subst same
          simp [limits, held]
        · simp [limits, List.getElem_set_ne same]
  case h_2 => rfl

theorem limits_setSecureProcessing (registry : Registry) (secure : Value) :
    (registry.setSecureProcessing secure).registry.limits = registry.limits := by
  simp [setSecureProcessing, limits]

end Registry

end ProtectionLimits
