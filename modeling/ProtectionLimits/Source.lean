import ProtectionLimits.Exhibit.Container
import ProtectionLimits.Fault.Report
import ProtectionLimits.Kept

/-!
Contract: where settings come from before any call.

Owns the sources of settings: the environment with the settings of a
configuration file behind it, tables of prepared answers, either of them with parts that a
caller has reached, and whatever else a caller takes for a source. A source answers a
name with a setting and its provenance, or not at all. In a layered source the
environment comes first, and a setting that counts as empty is no setting.
-/

set_option autoImplicit false

namespace ProtectionLimits

/-- What stands where a state belongs: a state, or anything else. -/
inductive Provenance where
  | state (state : State)
  | other (value : Value)

/-- The environment variables that a source reads: those of the process, or a
mapping in their place. -/
inductive Environment where
  | process (bindings : List (String × String))
  | mapping (entries : List (Value × Value))

/-- A source of settings. An opened source keeps its parts under names, and its prepared
answers if it has any; anything else only shows that it is none. -/
inductive Source where
  | layered (environment : Environment) (settings : List (Value × Value))
  | prepared (answers : List (String × Option (Value × Provenance)))
  | opened (parts : Kept Exhibit) (answers : Option (List (String × Option (Value × Provenance))))
  | foreign (shown : Exhibit)

abbrev Found := Value × Provenance

namespace Environment

def get (environment : Environment) (name : Value) : Except Fault (Option Value) :=
  match environment with
  | process bindings =>
      match name with
      | .text name => .ok ((bindings.lookup name).map Value.text)
      | other => .error (.variableNameKind other.kind)
  | mapping entries => Value.lookup entries name

end Environment

namespace Source

/-- A layered source from what a caller passes for its two layers. Absent layers
are the environment of the process and no settings at all. -/
def ofLayers (process : List (String × String)) (environment settings : Value) :
    Except Fault Source := do
  let environment ← match environment with
    | .absent => pure (Environment.process process)
    | .mapping entries => pure (Environment.mapping entries)
    | other => .error (.environmentKind other.kind)
  let settings ← match settings with
    | .absent => pure []
    | .mapping entries => pure entries
    | other => .error (.settingsKind other.kind)
  pure (layered environment settings)

def present? (value : Option Value) : Option Value :=
  value.filter Value.isTrue

def preparedAnswer (answers : List (String × Option Found)) (name : Value) : Option Found :=
  match name with
  | .text name => (answers.reverse.lookup name).join
  | _ => none

def getPrepared (answers : List (String × Option Found)) (name : Value) :
    Except Fault (Option Found) :=
  match name.unkeyable? with
  | some kind => .error (.unkeyable kind)
  | none => .ok (preparedAnswer answers name)

/-! ### Opened sources -/

def layeredName : String := "EnvironmentConfig"

def preparedName : String := "ConfigLoader"

def callName : String := "get_property"

/-- What a layer of an opened source has under a name. A mapping that is shown as a thing
is the environment of the process, which only has texts. -/
def getInLayer (parts : Kept Exhibit) (layer : String) (name : Value) :
    Except Fault (Option Value) :=
  match parts.under? layer with
  | none => .error (Kept.missing layeredName layer)
  | some (.value (.mapping entries)) => Value.lookup entries name
  | some (.thing _ _ _ (some entries)) =>
      match name with
      | .text _ => .ok ((Value.lookup? name entries).bind Exhibit.plain?)
      | other => .error (.variableNameKind other.kind)
  | some other => .error (.attributeMissing other.sort "get")

/-- The setting of a name in the layers of an opened source. -/
def getInLayers (parts : Kept Exhibit) (name : Value) : Except Fault (Option Found) := do
  match present? (← getInLayer parts "environ" name) with
  | some value => pure (some (value, .state .environment))
  | none =>
      match present? (← getInLayer parts "settings" name) with
      | some value => pure (some (value, .state .configFile))
      | none => pure none

/-- What comes of asking something for a call that it does not have. Anything that it
shows under the name cannot be called. -/
def refusal (shown : Exhibit) (call : String) : Fault :=
  match shown.part call with
  | .ok found => .notCallable found.sort
  | .error _ => .attributeMissing (.object shown.className) call

/-- The setting of a name with its provenance, if there is one. -/
def get (source : Source) (name : Value) : Except Fault (Option Found) :=
  match source with
  | layered environment settings => do
      match present? (← environment.get name) with
      | some value => pure (some (value, .state .environment))
      | none =>
          match present? (← Value.lookup settings name) with
          | some value => pure (some (value, .state .configFile))
          | none => pure none
  | prepared answers => getPrepared answers name
  | opened parts answers =>
      match parts.under? callName, answers with
      | some screen, _ => .error (.notCallable screen.sort)
      | none, some answers => getPrepared answers name
      | none, none => getInLayers parts name
  | foreign shown => .error (refusal shown callName)

/-! ### Sources as messages show them -/

def environmentExhibit : Environment → Exhibit
  | .process bindings =>
      let entries := bindings.map fun binding => (Value.text binding.1, Exhibit.text binding.2)
      .thing "_Environ"
        ((Exhibit.mapping "dict" entries).written.map fun text => "environ(" ++ text ++ ")") []
        (some entries)
  | .mapping entries => .value (.mapping entries)

def layeredWritten (settings : List (Value × Value)) : Except Fault String :=
  ((Value.mapping settings).written.map fun text =>
    layeredName ++ "(settings=" ++ text ++ ")").mapError .unwritable

/-- An opened source as text: its settings have to stand for a mapping. -/
def openedLiteral (parts : Kept Exhibit) : Except Fault String :=
  match parts.under? "settings" with
  | none => .error (Kept.missing layeredName "settings")
  | some (.value content) => content.toEntries.bind layeredWritten
  | some other => .error (.notIterable other.sort)

def literal : Source → Except Fault String
  | layered _ settings => layeredWritten settings
  | prepared _ => .ok (preparedName ++ "()")
  | opened parts none => openedLiteral parts
  | opened _ (some _) => .ok (preparedName ++ "()")
  | foreign shown => shown.written.mapError .unwritable

def parts : Source → Kept Exhibit
  | layered environment settings =>
      Kept.ofNames
        [("environ", environmentExhibit environment), ("settings", .value (.mapping settings))]
  | opened parts _ => parts
  | _ => []

def exhibit (source : Source) : Exhibit :=
  let written := source.literal.mapError Fault.unwritten
  match source with
  | layered _ _ => .keeping layeredName written source.parts
  | opened parts none => .keeping layeredName written parts
  | prepared _ => .keeping preparedName written []
  | opened parts (some _) => .keeping preparedName written parts
  | foreign shown => shown

/-- Opening a layered source does not change how it is shown. -/
theorem exhibit_opened (environment : Environment) (settings : List (Value × Value)) :
    (opened (layered environment settings).parts none).exhibit =
      (layered environment settings).exhibit := by
  simp [exhibit, literal, openedLiteral, parts, Kept.under?, Kept.ofNames, Value.lookup?,
    Value.toEntries, Except.bind]

/-! ### Reaching the parts of a source -/

def change (source : Source) (change : String → Kept Exhibit → Except Fault (Kept Exhibit)) :
    Except Fault Source :=
  match source with
  | layered _ _ => (change layeredName source.parts).map fun parts => opened parts none
  | prepared answers =>
      (change preparedName source.parts).map fun parts => opened parts (some answers)
  | opened parts none => (change layeredName parts).map fun parts => opened parts none
  | opened parts (some answers) =>
      (change preparedName parts).map fun parts => opened parts (some answers)
  | foreign shown => .ok (foreign shown)

def give (source : Source) (name : String) (value : Value) : Except Fault Source :=
  source.change fun className parts => parts.give className .value name value

def take (source : Source) (name : String) : Except Fault Source :=
  source.change fun className parts => parts.take className name

end Source

/-- The former name of a system property, in the caller's mapping or in the
standard one; absent where it was never renamed. -/
def formerName (names property : Value) : Except Fault Value :=
  match names with
  | .absent =>
      match property.unkeyable? with
      | some kind => .error (.unkeyable kind)
      | none => match property with
        | .text name => .ok (((formerNames.lookup name).map Value.text).getD .absent)
        | _ => .ok .absent
  | .mapping entries => (Value.lookup entries property).map fun found => found.getD .absent
  | other => .error (.attributeMissing other.kind "get")

end ProtectionLimits
