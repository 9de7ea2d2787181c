import ProtectionLimits.Registry.Opened

/-!
Contract: registries of either form, and what is shown of them.

Owns the two forms of a registry, sound and opened, the calls and queries of both, giving
and taking parts, and the view of a registry, which shows the contents of its rows. A
sound registry stays sound until a caller has given or taken a part. Anything can be
asked for its view and fails where it lacks what a view shows.
-/

set_option autoImplicit false

namespace ProtectionLimits.Registry

/-- What is shown of a registry. -/
structure View where
  values : List Reply
  states : List String
  flags : Reply
  entityCounts : Reply
  secure : Reply

def flagsReply (registry : Registry) : Reply :=
  .list (registry.rows.map fun row => .truth row.isSet)

def view (registry : Registry) : View where
  values := registry.rows.map fun row => .value row.value
  states := registry.rows.map fun row => row.state.name
  flags := registry.flagsReply
  entityCounts := .value registry.entityCounts
  secure := .value registry.secure

namespace View

def part (shown : Exhibit) (name : String) : Except Fault Exhibit :=
  match shown.part name with
  | .ok found => .ok found
  | .error _ => .error (Kept.missing shown.className name)

def stateName : Exhibit → Except Fault String
  | .state state => .ok state.name
  | other => .error (.attributeMissing other.sort "name")

def ofExhibit (shown : Exhibit) : Except Fault View := do
  let values ← (← part shown "values").members
  let states ← (← (← part shown "states").members).mapM stateName
  let flags ← part shown "is_set_flags"
  let entityCounts ← part shown "entity_count_info"
  let secure ← part shown "secure_processing"
  pure ⟨values.map Exhibit.reply, states, flags.reply, entityCounts.reply, secure.reply⟩

end View

inductive Form where
  | sound (registry : Registry)
  | opened (registry : Opened)

/-- What a call leaves behind: the registry, what it gives back, and the entries that came
through. -/
structure Outcome where
  form : Form
  result : Except Fault Reply
  entries : List Log.Entry

namespace Form

/-- The parts of a registry within a caller's reach. -/
def reached : Form → Opened
  | sound registry => registry.opened
  | opened registry => registry

def literal : Form → Except Fault String
  | sound registry => registry.literal
  | opened registry => registry.literal

def exhibit : Form → Exhibit
  | sound registry => registry.exhibit
  | opened registry => registry.exhibit

def view : Form → Except Fault View
  | sound registry => .ok registry.view
  | opened registry => View.ofExhibit registry.exhibit

def size : Form → Except Fault Nat
  | sound registry => .ok registry.rows.length
  | opened registry => registry.size

def flags? : Form → Option Reply
  | sound registry => some registry.flagsReply
  | opened registry => (registry.parts.under? "is_set_flags").map Exhibit.reply

def give (form : Form) (name : String) (value : Value) : Except Fault Form :=
  (form.reached.give name value).map opened

def take (form : Form) (name : String) : Except Fault Form :=
  (form.reached.take name).map opened

def withSource (form : Form) (shown : Exhibit) : Form :=
  match form with
  | sound registry => sound { registry with source := shown }
  | opened registry => opened { registry with parts := registry.parts.enter "config" shown }

def resolve : Form → Reference → Except Fault Target
  | sound registry => registry.resolve
  | opened registry => registry.resolve

/-- What a call of a sound registry leaves behind at a level of the log. -/
def performSound (registry : Registry) (level : Int) (call : Call Target) : Outcome :=
  match registry.perform call with
  | .error fault => ⟨sound registry, .error fault, []⟩
  | .ok (reply, change) =>
      match Event.writeAll level change.events with
      | (entries, none) => ⟨sound change.registry, .ok reply, entries⟩
      | (entries, some (count, fault)) =>
          ⟨sound (call.stopped registry change count), .error fault, entries⟩

def perform (form : Form) (level : Int) (call : Call Target) : Outcome :=
  match form with
  | sound registry => performSound registry level call
  | opened registry =>
      let (result, progress) := registry.run level (Opened.perform call)
      ⟨opened progress.registry, result, progress.entries⟩

def answer (form : Form) (query : Query Target) : Except Fault Reply :=
  match form with
  | sound registry => registry.answer query
  | opened registry => (registry.run 0 (Opened.answer query)).1

end Form

end ProtectionLimits.Registry
