import ProtectionLimits.Registry.Reading
import ProtectionLimits.Reply

/-!
Contract: the calls of a registry as data.

Owns the calls that change a registry, the queries that do not, what each of them
gives back, and histories of calls. A call that fails leaves the registry as it
was. The type of what stands for a limit is open: callers name limits by
references, and a registry works with what they refer to.
-/

set_option autoImplicit false

namespace ProtectionLimits.Registry

/-- A call that changes a registry. -/
inductive Call (Item : Type) where
  | secureProcessing (secure : Value)
  | named (name : Value) (provenance : Provenance) (setting : Value)
  | item (reference : Item) (provenance : Provenance) (value : Value)
  | indexed (index : Value) (provenance : Provenance) (setting : Value)

/-- What can be asked of a limit that is named itself. -/
inductive ItemAspect where
  | value
  | text
  | state
  | label
  | isSet
deriving DecidableEq, Repr

/-- What can be asked of an index. -/
inductive IndexAspect where
  | value
  | text
  | isSet
deriving DecidableEq, Repr

/-- A question to a registry. -/
inductive Query (Item : Type) where
  | item (aspect : ItemAspect) (reference : Item)
  | indexed (aspect : IndexAspect) (index : Value)
  | indexOf (name : Value)
  | textNamed (name : Value)
  | reportsEntityCounts
  | items
  | byKey
  | size
  | literal

def Call.name {Item : Type} : Call Item → String
  | secureProcessing _ => "set_secure_processing"
  | named _ _ _ => "set_limit"
  | item _ _ _ => "set_limit_value"
  | indexed _ _ _ => "set_limit_by_index"

/-- The name of the call that answers a query. The text of a registry needs no call. -/
def Query.name? {Item : Type} : Query Item → Option String
  | item .value _ => some "get_limit"
  | item .text _ => some "get_limit_value_as_string"
  | item .state _ => some "get_state"
  | item .label _ => some "get_state_literal"
  | item .isSet _ => some "is_set"
  | indexed .value _ => some "get_limit_by_index"
  | indexed .text _ => some "get_limit_value_by_index"
  | indexed .isSet _ => some "is_set_by_index"
  | indexOf _ => some "get_index"
  | textNamed _ => some "get_limit_as_string"
  | reportsEntityCounts => some "print_entity_count_info"
  | items => some "items"
  | byKey => some "as_dict"
  | size => some "__len__"
  | literal => none

def Call.resolve {Item : Type} (resolve : Item → Except Fault Target) :
    Call Item → Except Fault (Call Target)
  | secureProcessing secure => .ok (secureProcessing secure)
  | named name provenance setting => .ok (named name provenance setting)
  | item reference provenance value =>
      (resolve reference).map fun target => .item target provenance value
  | indexed index provenance setting => .ok (indexed index provenance setting)

def Query.resolve {Item : Type} (resolve : Item → Except Fault Target) :
    Query Item → Except Fault (Query Target)
  | item aspect reference => (resolve reference).map fun target => .item aspect target
  | indexed aspect index => .ok (indexed aspect index)
  | indexOf name => .ok (indexOf name)
  | textNamed name => .ok (textNamed name)
  | reportsEntityCounts => .ok reportsEntityCounts
  | items => .ok items
  | byKey => .ok byKey
  | size => .ok size
  | literal => .ok literal

/-- What a call gives back, with the change it makes. -/
def perform (registry : Registry) : Call Target → Except Fault (Reply × Change)
  | .secureProcessing secure => .ok (.nothing, registry.setSecureProcessing secure)
  | .named name provenance setting =>
      (registry.setByName name provenance setting).map fun (isKnown, change) =>
        (.truth isKnown, change)
  | .item target provenance value =>
      (registry.setValue target provenance value).map fun change => (.nothing, change)
  | .indexed index provenance setting =>
      (registry.setByIndex index provenance setting).map fun change => (.nothing, change)

/-- What a call leaves behind if its events cannot be written from one on: of all
rows only those up to there are changed, and a single row is changed before its
event is written. -/
def Call.stopped (call : Call Target) (before : Registry) (change : Change) (count : Nat) :
    Registry :=
  match call with
  | secureProcessing _ => stopBehind before change.registry (count + 1)
  | _ => change.registry

def after (registry : Registry) (call : Call Target) : Registry :=
  match registry.perform call with
  | .ok (_, change) => change.registry
  | .error _ => registry

def afterAll (registry : Registry) (calls : List (Call Target)) : Registry :=
  calls.foldl after registry

/-- An answer about a limit that is named itself. -/
def answerItem (registry : Registry) (aspect : ItemAspect) (target : Target) :
    Except Fault Reply :=
  (registry.rowOf target).bind fun row => match aspect with
    | .value => .ok (.value row.value)
    | .text => (rowText row).map .text
    | .state => .ok (.state row.state)
    | .label => .ok (.text row.state.label)
    | .isSet => .ok (.truth row.isSet)

/-- An answer about an index. Only the text knows the report of entity counts. -/
def answerIndexed (registry : Registry) (aspect : IndexAspect) (index : Value) :
    Except Fault Reply :=
  match aspect with
  | .value => (registry.rowAt index).map fun row => .value row.value
  | .text => (registry.textAt index).map .value
  | .isSet => (registry.rowAt index).map fun row => .truth row.isSet

def answer (registry : Registry) : Query Target → Except Fault Reply
  | .item aspect target => registry.answerItem aspect target
  | .indexed aspect index => registry.answerIndexed aspect index
  | .indexOf name => .ok (.integer (registry.indexOf name))
  | .textNamed name => (registry.textNamed name).map .value
  | .reportsEntityCounts => .ok (.truth registry.reportsEntityCounts)
  | .items => .ok (.list (registry.rows.map fun row =>
      .list [.value row.limit.key, .value row.value, .state row.state]))
  | .byKey => registry.byKey.map fun entries => .list (entries.map fun entry =>
      .list [.value entry.1, .value entry.2])
  | .size => .ok (.count registry.rows.length)
  | .literal => registry.literal.map .text

/-! ### Histories -/

@[simp] theorem afterAll_cons (registry : Registry) (call : Call Target)
    (rest : List (Call Target)) :
    registry.afterAll (call :: rest) = (registry.after call).afterAll rest := rfl

/-- A call that fails leaves the registry as it was. -/
theorem after_of_error {registry : Registry} {call : Call Target} {fault : Fault}
    (failed : registry.perform call = .error fault) : registry.after call = registry := by
  simp [after, failed]

theorem limits_setByIndex {registry : Registry} {index setting : Value}
    {provenance : Provenance} {change : Change}
    (accepted : registry.setByIndex index provenance setting = .ok change) :
    change.registry.limits = registry.limits := by
  unfold setByIndex at accepted
  cases provenance with
  | other value => cases accepted
  | state state =>
      simp only [requireState, bind, Except.bind, pure, Except.pure] at accepted
      split at accepted
      · cases accepted
        rfl
      · split at accepted
        · cases accepted
        · split at accepted
          · cases accepted
          · cases accepted
            exact limits_offerAt registry _ _ _

theorem limits_setValue {registry : Registry} {target : Target} {provenance : Provenance}
    {value : Value} {change : Change}
    (accepted : registry.setValue target provenance value = .ok change) :
    change.registry.limits = registry.limits := by
  unfold setValue at accepted
  cases provenance with
  | other value => cases accepted
  | state state =>
      simp only [requireState, bind, Except.bind, pure, Except.pure] at accepted
      split at accepted
      · cases accepted
      · split at accepted
        · cases accepted
        · cases accepted
          exact limits_offerAt registry _ _ _

/-- A result that was mapped comes from a result. -/
theorem map_eq_ok {Error First Second : Type} {convert : First → Second}
    {result : Except Error First} {converted : Second}
    (mapped : result.map convert = .ok converted) :
    ∃ first, result = .ok first ∧ convert first = converted := by
  cases result with
  | error fault => cases mapped
  | ok first => exact ⟨first, rfl, Except.ok.inj mapped⟩

theorem limits_setByName {registry : Registry} {name setting : Value} {provenance : Provenance}
    {isKnown : Bool} {change : Change}
    (accepted : registry.setByName name provenance setting = .ok (isKnown, change)) :
    change.registry.limits = registry.limits := by
  simp only [setByName] at accepted
  split at accepted
  · cases accepted
    rfl
  · obtain ⟨made, run, agreement⟩ := map_eq_ok accepted
    cases agreement
    exact limits_setByIndex run

theorem limits_perform {registry : Registry} {call : Call Target} {reply : Reply}
    {change : Change} (accepted : registry.perform call = .ok (reply, change)) :
    change.registry.limits = registry.limits := by
  cases call with
  | secureProcessing secure =>
      cases accepted
      exact limits_setSecureProcessing registry secure
  | named name provenance setting =>
      obtain ⟨⟨isKnown, made⟩, run, agreement⟩ := map_eq_ok accepted
      cases agreement
      exact limits_setByName run
  | item target provenance value =>
      obtain ⟨made, run, agreement⟩ := map_eq_ok accepted
      cases agreement
      exact limits_setValue run
  | indexed index provenance setting =>
      obtain ⟨made, run, agreement⟩ := map_eq_ok accepted
      cases agreement
      exact limits_setByIndex run

/-- A registry keeps its limits through every call. -/
theorem limits_after (registry : Registry) (call : Call Target) :
    (registry.after call).limits = registry.limits := by
  unfold after
  split
  case h_1 accepted => exact limits_perform accepted
  case h_2 => rfl

/-- A registry keeps its limits through every history. -/
theorem limits_afterAll (registry : Registry) (calls : List (Call Target)) :
    (registry.afterAll calls).limits = registry.limits := by
  induction calls generalizing registry with
  | nil => rfl
  | cons call rest inductionHypothesis =>
      rw [afterAll_cons, inductionHypothesis, limits_after]

end ProtectionLimits.Registry
