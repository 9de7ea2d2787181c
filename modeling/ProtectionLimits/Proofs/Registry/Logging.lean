import Mathlib.Data.List.Forall2
import ProtectionLimits.Proofs.Log.Replay
import ProtectionLimits.Proofs.Registry.History

/-!
Contract: what a call of a registry leaves in the log.

Owns the entries of a call at a level of the log, how many they are and which limits they are
about (`IsLogged`): one for every limit if secure processing is switched, one for the limit that
a setting was accepted for, and none otherwise. An entry that says that a setting was ignored
tells who held the limit.

A table must have keys that are texts, each of its own; an entry names a limit by its key. That
no entry is cut short needs a table of integers.
-/

set_option autoImplicit false

namespace ProtectionLimits

namespace Event

/-- Events that can be shown are written as the entries that a level lets through. -/
theorem writeAll_eq_visible (level : Int) {events : List Event}
    (shown : ∀ event ∈ events, event.IsShown) :
    (writeAll level events).1 = Log.visible level (events.map entry) := by
  induction events with
  | nil => rfl
  | cons event rest inductionHypothesis =>
      rw [List.forall_mem_cons] at shown
      obtain ⟨⟨text, isText⟩, restShown⟩ := shown
      have isEntry : event.entry = ⟨event.severity, text⟩ := by
        rw [entry, isText]
        rfl
      rw [List.map_cons, Log.visible, List.filter_cons, ← Log.visible,
        ← inductionHypothesis restShown, isEntry]
      simp only [writeAll, isText]
      split <;> rfl

theorem debug_le (severity : Severity) : Severity.debug.level ≤ severity.level := by
  cases severity <;> decide

/-- A level that lets the gate through lets everything through. -/
theorem visible_map_entry {level : Int} (detailed : Log.lets level .debug = true)
    (events : List Event) : Log.visible level (events.map entry) = events.map entry := by
  rw [Log.visible, List.filter_eq_self]
  intro written member
  obtain ⟨event, -, rfl⟩ := List.mem_map.1 member
  simp only [Log.lets, decide_eq_true_eq] at detailed ⊢
  exact Int.le_trans detailed (debug_le event.severity)

end Event

namespace Registry

/-- Whether the limits of a table have keys that are texts, each of its own. -/
structure HasTextKeys (limits : List Limit) : Prop where
  texts : ∀ limit ∈ limits, ∃ key, limit.key = .text key
  distinct : (limits.map Limit.key).Nodup

section Calls

variable {registry : Registry}

/-- The events of an impact are written as the entries that a level lets through. -/
theorem entries_perform (integral : ∀ limit ∈ registry.limits, limit.IsIntegral)
    {call : Call Target} {reply : Reply} {impact : Impact}
    (decided : call.decision registry.limits registry.exhibit = .ok (reply, impact))
    (level : Int) :
    ((Form.sound registry).perform level call).entries =
      Log.visible level ((registry.eventsOf impact).map Event.entry) := by
  have performed : registry.perform call = .ok (reply, registry.carriedOut impact) := by
    rw [perform_eq, decided]
    rfl
  rw [form_perform_of_impact (fun _ _ => integral) decided level]
  exact Event.writeAll_eq_visible level (isShown_perform (fun _ _ => integral) performed)

/-- A request for secure processing is reported for every limit, in table order. -/
theorem reports_everyRow (integral : ∀ limit ∈ registry.limits, limit.IsIntegral)
    (secure : Value) :
    List.Forall₂ (fun limit entry => ∃ value, limit.initialValue secure.isTrue = .int value ∧
        Log.Entry.Reports entry limit.key value .secureProcessing)
      registry.limits ((registry.eventsOf (.everyRow secure)).map Event.entry) := by
  have events : registry.eventsOf (.everyRow secure) = registry.rows.map fun row =>
      row.verdict .secureProcessing (row.limit.initialValue secure.isTrue) := rfl
  rw [events, List.map_map, limits, List.forall₂_map_left_iff, List.forall₂_map_right_iff,
    List.forall₂_same]
  intro row member
  obtain ⟨value, isValue⟩ :=
    (integral row.limit (List.mem_map_of_mem member)).initialValue secure.isTrue
  refine ⟨value, isValue, ?_⟩
  rw [Function.comp_apply, isValue]
  exact Event.entry_verdict_reports row .secureProcessing value

/-- A setting for one row is reported once, for the limit of that row. -/
theorem exists_report_row {position : Nat} (inside : position < registry.limits.length)
    (state : State) (value : Int) :
    ∃ limit entry, registry.limits[position]? = some limit ∧
      (registry.eventsOf (.row position ⟨state, .int value⟩)).map Event.entry = [entry] ∧
      entry.Reports limit.key value state := by
  rw [length_limits] at inside
  have held := List.getElem?_eq_getElem inside
  refine ⟨registry.rows[position].limit, _, ?_, ?_,
    Event.entry_verdict_reports registry.rows[position] state value⟩
  · rw [getElem?_limits, held, Option.map_some]
  · rw [eventsOf, offerAt, held]
    rfl

/-- Every entry of an impact is about an offer to a row. -/
theorem exists_offer_of_mem (integral : ∀ limit ∈ registry.limits, limit.IsIntegral)
    {call : Call Target} {reply : Reply} {impact : Impact}
    (decided : call.decision registry.limits registry.exhibit = .ok (reply, impact))
    {entry : Log.Entry} (member : entry ∈ (registry.eventsOf impact).map Event.entry) :
    ∃ (position : Nat) (row : Row) (state : State) (value : Int),
      registry.rows[position]? = some row ∧
      entry = (row.verdict state (.int value)).entry ∧
      (registry.applied impact).rows[position]? = some (row.offer state (.int value)) := by
  obtain ⟨event, isEvent, rfl⟩ := List.mem_map.1 member
  obtain ⟨secure, -, rfl⟩ | ⟨place, state, value, rfl, -⟩ | ⟨content, rfl⟩ | rfl :=
    decision_cases decided
  · obtain ⟨row, rowMember, rfl⟩ := List.mem_map.1 isEvent
    obtain ⟨position, inside, held⟩ := List.getElem_of_mem rowMember
    have heldHere : registry.rows[position]? = some row :=
      List.getElem?_eq_some_iff.2 ⟨inside, held⟩
    obtain ⟨value, isValue⟩ :=
      (integral row.limit (List.mem_map_of_mem rowMember)).initialValue secure.isTrue
    refine ⟨position, row, .secureProcessing, value, heldHere, by rw [isValue], ?_⟩
    simp only [applied, setSecureProcessing, List.getElem?_map, heldHere, Option.map_some, isValue]
  · rw [eventsOf, offerAt] at isEvent
    split at isEvent
    case h_1 row held =>
        refine ⟨place, row, state, value, held, by rw [List.mem_singleton.1 isEvent], ?_⟩
        exact getElem?_rows_written held ⟨state, .int value⟩
    case h_2 => cases isEvent
  · cases isEvent
  · cases isEvent

/-- What a call leaves behind in the log: an entry for every limit in table order if it
switches secure processing, one entry about the limit if it is accepted for one, and none
otherwise. An entry that says that a setting was ignored names the state that holds the limit,
which the setting does not reach. -/
structure IsLogged (registry : Registry) (call : Call Target) (outcome : Outcome) : Prop where
  ofSwitch : ∀ secure, call = .secureProcessing secure →
    List.Forall₂ (fun limit entry => ∃ value, limit.initialValue secure.isTrue = .int value ∧
      Log.Entry.Reports entry limit.key value .secureProcessing) registry.limits outcome.entries
  ofLimit : ∀ position write, call.impact registry.limits = .row position write →
    ∃ limit value entry, registry.limits[position]? = some limit ∧ write.value = .int value ∧
      outcome.entries = [entry] ∧ entry.Reports limit.key value write.state
  ofEntityCounts : ∀ setting, call.impact registry.limits = .entityCounts setting →
    outcome.entries = []
  ofNothing : call.impact registry.limits = .nothing → outcome.entries = []
  ofFault : ∀ fault, outcome.result = .error fault → outcome.entries = []
  ignored : ∀ entry ∈ outcome.entries, ∀ key value state holder,
    entry.Ignores (.text key) value state holder →
    ∃ (position : Nat) (row : Row), registry.rows[position]? = some row ∧
      (registry.after call).rows[position]? = some row ∧ row.limit.key = .text key ∧
      row.state = holder ∧ state < holder

/-- A call that is refused writes nothing. -/
theorem isLogged_of_fault (short : registry.limits.length ≤ entityCountInfoIndex)
    {call : Call Target} {fault : Fault}
    (decided : call.decision registry.limits registry.exhibit = .error fault) (level : Int) :
    registry.IsLogged call ((Form.sound registry).perform level call) := by
  have isImpact := impact_eq_ofDecision short registry.exhibit call
  rw [decided] at isImpact
  rw [form_perform_of_fault decided]
  exact
    { ofSwitch := fun secure isSwitch => by
        subst isSwitch
        cases decided
      ofLimit := fun position write isRow => by cases isImpact.symm.trans isRow
      ofEntityCounts := fun _ _ => rfl
      ofNothing := fun _ => rfl
      ofFault := fun _ _ => rfl
      ignored := nofun }

/-- A setting that is accepted for one row has one entry, about its limit. -/
theorem exists_report_of_decision {call : Call Target} {reply : Reply} {position : Nat}
    {write : Write}
    (decided : call.decision registry.limits registry.exhibit = .ok (reply, .row position write)) :
    ∃ limit value entry, registry.limits[position]? = some limit ∧ write.value = .int value ∧
      (registry.eventsOf (.row position write)).map Event.entry = [entry] ∧
      entry.Reports limit.key value write.state := by
  obtain ⟨_, -, other⟩ | ⟨_, state, value, same, inside, -⟩ | ⟨_, other⟩ | other :=
    decision_cases decided
  · cases other
  · cases same
    obtain ⟨limit, entry, held, once, reports⟩ := exists_report_row inside state value
    exact ⟨limit, value, entry, held, rfl, once, reports⟩
  · cases other
  · cases other

/-- An entry that says that a setting was ignored names the state that holds the row, before and
behind the call. -/
theorem exists_holder_of_ignores (own : HasTextKeys registry.limits)
    (integral : ∀ limit ∈ registry.limits, limit.IsIntegral) {call : Call Target} {reply : Reply}
    {impact : Impact}
    (decided : call.decision registry.limits registry.exhibit = .ok (reply, impact))
    {entry : Log.Entry} (member : entry ∈ (registry.eventsOf impact).map Event.entry)
    {key : String} {value : Int} {state holder : State}
    (ignores : entry.Ignores (.text key) value state holder) :
    ∃ (position : Nat) (row : Row), registry.rows[position]? = some row ∧
      (registry.after call).rows[position]? = some row ∧ row.limit.key = .text key ∧
      row.state = holder ∧ state < holder := by
  obtain ⟨position, row, offered, integer, held, rfl, behind⟩ :=
    exists_offer_of_mem integral decided member
  obtain ⟨ownKey, isKey⟩ := own.texts row.limit (List.mem_map_of_mem (List.mem_of_getElem? held))
  obtain ⟨sameKey, holds, below, unchanged⟩ := Event.lt_of_entry_verdict_ignores isKey ignores
  have after : registry.after call = registry.applied impact := by
    rw [after_eq_of_decision, decided]
  rw [unchanged, ← after] at behind
  exact ⟨position, row, held, behind, sameKey, holds, below⟩

theorem isLogged_perform (own : HasTextKeys registry.limits)
    (short : registry.limits.length ≤ entityCountInfoIndex)
    (integral : ∀ limit ∈ registry.limits, limit.IsIntegral) {level : Int}
    (detailed : Log.lets level .debug = true) (call : Call Target) :
    registry.IsLogged call ((Form.sound registry).perform level call) := by
  have isImpact := impact_eq_ofDecision short registry.exhibit call
  cases decided : call.decision registry.limits registry.exhibit with
  | error fault => exact isLogged_of_fault short decided level
  | ok made =>
      obtain ⟨reply, impact⟩ := made
      rw [decided] at isImpact
      replace isImpact : call.impact registry.limits = impact := isImpact
      have entries : ((Form.sound registry).perform level call).entries =
          (registry.eventsOf impact).map Event.entry := by
        rw [entries_perform integral decided, Event.visible_map_entry detailed]
      have result : ((Form.sound registry).perform level call).result = .ok reply := by
        rw [form_perform_of_impact (fun _ _ => integral) decided]
      exact
        { ofSwitch := fun secure isSwitch => by
            subst isSwitch
            cases decided
            rw [entries]
            exact reports_everyRow integral secure
          ofLimit := fun position write isRow => by
            obtain rfl := isImpact.symm.trans isRow
            rw [entries]
            exact exists_report_of_decision decided
          ofEntityCounts := fun setting isSetting => by
            obtain rfl := isImpact.symm.trans isSetting
            exact entries
          ofNothing := fun isNothing => by
            obtain rfl := isImpact.symm.trans isNothing
            exact entries
          ofFault := fun fault failed => by cases result.symm.trans failed
          ignored := fun entry member key value state holder ignores => by
            rw [entries] at member
            exact exists_holder_of_ignores own integral decided member ignores }

/-- At another level of the log a call writes what that level lets through. -/
theorem entries_perform_eq_visible (integral : ∀ limit ∈ registry.limits, limit.IsIntegral)
    {level : Int} (detailed : Log.lets level .debug = true) (other : Int) (call : Call Target) :
    ((Form.sound registry).perform other call).entries =
      Log.visible other ((Form.sound registry).perform level call).entries := by
  cases decided : call.decision registry.limits registry.exhibit with
  | error fault =>
      rw [form_perform_of_fault decided, form_perform_of_fault decided]
      rfl
  | ok made =>
      rw [entries_perform integral decided, entries_perform integral decided,
        Event.visible_map_entry detailed]

end Calls

end Registry

end ProtectionLimits
