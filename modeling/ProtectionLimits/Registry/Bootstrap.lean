import ProtectionLimits.Log.Scope
import ProtectionLimits.Registry

/-!
Contract: how a registry begins.

Owns the table that a caller passes, the first values of all rows, and loading
them from a source. For each limit the present name of its system property is
looked up first and the former name only if there is no setting under the
present one. A setting that is found is installed without regard to the gate and
leaves the flag down; a setting that is rejected ends the beginning with its
fault, which names the present property.
-/

set_option autoImplicit false

namespace ProtectionLimits

/-- The table that a caller passes. -/
inductive Table where
  | standard
  | limits (items : List Limit)
  | value (content : Value)

namespace Table

def itemKinds : Value → Except Fault (List Kind)
  | .text content => .ok (content.toList.map fun _ => .text)
  | .bytes content => .ok (content.map fun _ => .int)
  | .list items => .ok (items.map Value.kind)
  | .tuple items => .ok (items.map Value.kind)
  | .mapping entries => .ok (entries.map fun entry => entry.1.kind)
  | other => .error (.notIterable other.kind)

/-- The limits of a table. Items that are no limits fail for want of the first
value that is needed of them. -/
def resolve (secure : Bool) : Table → Except Fault (List Limit)
  | standard => .ok Limit.standardTable
  | limits items => .ok items
  | value .absent => .ok Limit.standardTable
  | value content => do
      match ← itemKinds content with
      | [] => pure []
      | kind :: _ =>
          .error (.attributeMissing kind (if secure then "secure_value" else "default_value"))

end Table

namespace Registry

/-- A source as a function from names to answers. -/
abbrev Lookup := Value → Except Fault (Option Found)

/-- The setting for a property and the name under which it was found: the
present name, or the former one where the present name has no setting. -/
def findSetting (lookup : Lookup) (names property : Value) :
    Except Fault (Option (Found × Value)) := do
  match ← lookup property with
  | some found => pure (some (found, property))
  | none =>
      match ← formerName names property with
      | .absent => pure none
      | former => pure ((← lookup former).map fun found => (found, former))

def load (row : Row) (found : Found) (name : Value) : Except Fault (Row × Event) := do
  let value ← Setting.parse row.limit.systemProperty found.1
  match found.2 with
  | .state state =>
      pure
        ({ row with value := .int value, state := state },
          .loaded row.limit.key value state name)
  | .other other => .error (.attributeMissing other.kind "literal")

def bootstrapRow (lookup : Lookup) (names : Value) (row : Row) :
    Except Fault (Row × List Event) := do
  match ← findSetting lookup names row.limit.systemProperty with
  | none => pure (row, [])
  | some (found, name) =>
      let (loaded, event) ← load row found name
      pure (loaded, [event])

/-- All rows in order, up to the first fault; the events until then stand. -/
def bootstrapRows (lookup : Lookup) (names : Value) :
    List Row → List Event × Except Fault (List Row)
  | [] => ([], .ok [])
  | row :: rest =>
      match bootstrapRow lookup names row with
      | .error fault => ([], .error fault)
      | .ok (loaded, events) =>
          let (more, result) := bootstrapRows lookup names rest
          (events ++ more, result.map (loaded :: ·))

/-- A registry over a table, loaded from a source that is shown as `source`. -/
def bootstrap (lookup : Lookup) (source : Exhibit) (names secure : Value)
    (limits : List Limit) : List Event × Except Fault Registry :=
  let (events, result) := bootstrapRows lookup names (limits.map (Row.initial secure.isTrue))
  (events, result.map fun rows =>
    { rows := rows
      entityCounts := .text ""
      secure := secure
      source := source
      names := names })

/-- What a caller passes to make a registry. -/
structure Creation where
  secure : Value
  table : Table
  source : Source
  names : Value
  level : Value
  keywords : List String

/-- The callee that a fault about the arguments of a registry names. -/
def callee : String := "LimitRegistry.__init__()"

def Creation.refused? (creation : Creation) : Option Fault :=
  creation.keywords.head?.map fun keyword =>
    if keyword == "self" then .argumentRepeated callee keyword
    else .keywordUnexpected callee keyword

/-- The registry that a caller asked for, made at one level of the log. -/
def build (creation : Creation) (level : Int) : Log.Run Registry :=
  match creation.refused? with
  | some fault => ⟨level, [], .error fault⟩
  | none =>
      match creation.table.resolve creation.secure.isTrue with
      | .error fault => ⟨level, [], .error fault⟩
      | .ok limits =>
          let (events, result) :=
            bootstrap creation.source.get creation.source.exhibit creation.names
              creation.secure limits
          let (entries, stopped) := Event.writeAll level events
          match stopped with
          | none => ⟨level, entries, result⟩
          | some (_, fault) => ⟨level, entries, .error fault⟩

/-- The registry that a caller asked for, made within the scope of the level
that the caller asked for. -/
def create (creation : Creation) (level : Int) : Log.Run Registry :=
  Log.withLevel creation.level level (build creation)

end Registry

end ProtectionLimits
