import ProtectionLimits.Proofs.Registry.Impact

/-!
Contract: what a call decides on, over a table of any length.

Owns the decision of a call, which is what it gives back together with its impact, or
the fault that it ends with. `perform_eq` says that a call is its decision carried out,
and `decision_cases` says all that a decision can come to. The table alone decides, with
one exception: the fault of an item that is not managed shows the registry. A table may be
so long that one of its limits stands where the report of entity counts is addressed; then
a decision says what comes of it, and otherwise the impact of a call says the same.

A registry behind a call is the registry behind the impact of a decision or the
registry from before, so whatever impacts preserve is preserved by runs.
-/

set_option autoImplicit false

namespace ProtectionLimits.Registry

/-! ### Decisions -/

def indexNamed (limits : List Limit) (name : Value) : Int :=
  match positionNamed? limits name with
  | some position => position
  | none => if name.equals (.text entityCountInfo) then entityCountInfoIndex else -1

def decideIndexed (limits : List Limit) (index : Value) (provenance : Provenance)
    (setting : Value) : Except Fault Impact :=
  match provenance with
  | .other other => .error (.stateKind other.kind)
  | .state state =>
      if addressesEntityCounts index then .ok (.entityCounts (entityCountsSetting setting))
      else
        match positionIndexed? limits index with
        | some position =>
            (Setting.parse ((limits[position]?).elim .absent Limit.apiProperty) setting).map
              fun value => .row position ⟨state, .int value⟩
        | none => .error (.limitIndex index)

def decideNamed (limits : List Limit) (name : Value) (provenance : Provenance)
    (setting : Value) : Except Fault (Bool × Impact) :=
  if indexNamed limits name = -1 then .ok (false, .nothing)
  else
    (decideIndexed limits (.int (indexNamed limits name)) provenance setting).map
      fun impact => (true, impact)

def decideItem (limits : List Limit) (shown : Exhibit) (target : Target)
    (provenance : Provenance) (value : Value) : Except Fault Impact :=
  match provenance, value with
  | .other other, _ => .error (.stateKind other.kind)
  | .state state, .int value =>
      match positionOfTarget? limits target with
      | some position => .ok (.row position ⟨state, .int value⟩)
      | none => .error (.limitUnmanaged target shown)
  | .state _, other => .error (.valueKind other.kind)

def Call.decision (limits : List Limit) (shown : Exhibit) :
    Call Target → Except Fault (Reply × Impact)
  | secureProcessing secure => .ok (.nothing, .everyRow secure)
  | named name provenance setting =>
      (decideNamed limits name provenance setting).map fun decided => (.truth decided.1, decided.2)
  | item target provenance value =>
      (decideItem limits shown target provenance value).map fun impact => (.nothing, impact)
  | indexed index provenance setting =>
      (decideIndexed limits index provenance setting).map fun impact => (.nothing, impact)

/-- Whether a call gives a limit nothing but what is admitted. -/
def Call.GivesOnly (admitted : Int → Prop) : Call Target → Prop
  | secureProcessing _ => True
  | named _ _ setting => Setting.GivesOnly admitted setting
  | item _ _ value => ∀ integer, value = .int integer → admitted integer
  | indexed _ _ setting => Setting.GivesOnly admitted setting

def eventsOf (registry : Registry) : Impact → List Event
  | .everyRow secure => (registry.setSecureProcessing secure).events
  | .row position write => (registry.offerAt position write.state write.value).events
  | _ => []

def carriedOut (registry : Registry) (impact : Impact) : Change :=
  ⟨registry.applied impact, registry.eventsOf impact⟩

/-! ### Decisions for a position -/

section Positions

variable {limits : List Limit} {position : Nat} {limit : Limit}

theorem decideIndexed_of_entityCounts {index : Value}
    (addressed : addressesEntityCounts index = true) (state : State) (setting : Value) :
    decideIndexed limits index (.state state) setting =
      .ok (.entityCounts (entityCountsSetting setting)) := by
  simp only [decideIndexed, if_pos addressed]

theorem decideIndexed_of_inside (notAddressed : addressesEntityCounts (.int position) = false)
    (held : limits[position]? = some limit) (state : State) (setting : Value) :
    decideIndexed limits (.int position) (.state state) setting =
      (Setting.parse limit.apiProperty setting).map fun value =>
        .row position ⟨state, .int value⟩ := by
  have inside : position < limits.length := (List.getElem?_eq_some_iff.1 held).1
  simp only [decideIndexed, notAddressed, Bool.false_eq_true, if_false,
    positionIndexed?_eq_some_iff.2 ⟨rfl, inside⟩, held, Option.elim_some]

/-- A name that a limit answers to stands for the index of the limit. -/
theorem decideNamed_of_named {name : Value} (named : positionNamed? limits name = some position)
    (provenance : Provenance) (setting : Value) :
    decideNamed limits name provenance setting =
      (decideIndexed limits (.int position) provenance setting).map
        fun impact => (true, impact) := by
  have index : indexNamed limits name = position := by rw [indexNamed, named]
  rw [decideNamed, index, if_neg (by omega)]

theorem decideItem_of_managed {target : Target}
    (managed : positionOfTarget? limits target = some position) (shown : Exhibit) (state : State)
    (value : Int) :
    decideItem limits shown target (.state state) (.int value) =
      .ok (.row position ⟨state, .int value⟩) := by
  simp only [decideItem, managed]

end Positions

/-! ### What can be decided on -/

section Cases

variable {limits : List Limit} {impact : Impact}

theorem decideIndexed_cases {index setting : Value} {provenance : Provenance}
    (decided : decideIndexed limits index provenance setting = .ok impact) :
    (∃ position state value, impact = .row position ⟨state, .int value⟩ ∧
        position < limits.length ∧
        ∀ admitted, Setting.GivesOnly admitted setting → admitted value) ∨
      ∃ content, impact = .entityCounts (.text content) := by
  cases provenance with
  | other other => cases decided
  | state state =>
      rw [decideIndexed] at decided
      split at decided
      · cases decided
        cases setting with
        | text content => exact .inr ⟨content, rfl⟩
        | _ => exact .inr ⟨yes, rfl⟩
      · split at decided
        case h_1 position addressed =>
            obtain ⟨value, parsed, rfl⟩ := map_eq_ok decided
            have inside := (positionIndexed?_eq_some_iff.1 addressed).2
            exact .inl ⟨position, state, value, rfl, inside, fun _ given => given _ value parsed⟩
        case h_2 => cases decided

theorem decideItem_cases {shown : Exhibit} {target : Target} {provenance : Provenance}
    {value : Value} (decided : decideItem limits shown target provenance value = .ok impact) :
    ∃ position state integer, value = .int integer ∧ position < limits.length ∧
      impact = .row position ⟨state, .int integer⟩ := by
  unfold decideItem at decided
  split at decided
  · cases decided
  · split at decided
    case h_1 position managed =>
        cases decided
        exact ⟨position, _, _, rfl, lt_of_positionOfTarget? managed, rfl⟩
    case h_2 => cases decided
  · cases decided

/-- A call decides on all rows only if it requests this. Otherwise it decides on an
integer for one row of the table, which is one that the call gives, on a text beside the
rows, or on nothing. -/
theorem decision_cases {shown : Exhibit} {call : Call Target} {reply : Reply}
    (decided : call.decision limits shown = .ok (reply, impact)) :
    (∃ secure, call = .secureProcessing secure ∧ impact = .everyRow secure) ∨
      (∃ position state value, impact = .row position ⟨state, .int value⟩ ∧
        position < limits.length ∧ ∀ admitted, call.GivesOnly admitted → admitted value) ∨
      (∃ content, impact = .entityCounts (.text content)) ∨ impact = .nothing := by
  cases call with
  | secureProcessing secure =>
      cases decided
      exact .inl ⟨secure, rfl, rfl⟩
  | named name provenance setting =>
      obtain ⟨⟨isKnown, made⟩, decidedNamed, agreement⟩ := map_eq_ok decided
      cases agreement
      rw [decideNamed] at decidedNamed
      split at decidedNamed
      · cases decidedNamed
        exact .inr (.inr (.inr rfl))
      · obtain ⟨indexed, decidedIndexed, same⟩ := map_eq_ok decidedNamed
        cases same
        rcases decideIndexed_cases decidedIndexed with row | beside
        · exact .inr (.inl row)
        · exact .inr (.inr (.inl beside))
  | item target provenance value =>
      obtain ⟨made, decidedItem, agreement⟩ := map_eq_ok decided
      cases agreement
      obtain ⟨position, state, integer, rfl, inside, rfl⟩ := decideItem_cases decidedItem
      exact .inr (.inl ⟨position, state, integer, rfl, inside, fun _ given => given integer rfl⟩)
  | indexed index provenance setting =>
      obtain ⟨made, decidedIndexed, agreement⟩ := map_eq_ok decided
      cases agreement
      rcases decideIndexed_cases decidedIndexed with row | beside
      · exact .inr (.inl row)
      · exact .inr (.inr (.inl beside))

end Cases

/-! ### A call is its decision carried out -/

theorem indexOf_eq (registry : Registry) (name : Value) :
    registry.indexOf name = indexNamed registry.limits name := by
  rw [indexNamed]
  cases found : positionNamed? registry.limits name with
  | some position => rw [indexOf_of_named found]
  | none => rw [indexOf_of_unnamed found]

theorem setByIndex_eq (registry : Registry) (index : Value) (provenance : Provenance)
    (setting : Value) :
    registry.setByIndex index provenance setting =
      (decideIndexed registry.limits index provenance setting).map registry.carriedOut := by
  cases provenance with
  | other other => rfl
  | state state =>
      by_cases addressed : addressesEntityCounts index = true
      · rw [setByIndex_of_entityCounts addressed, decideIndexed]
        simp only [if_pos addressed]
        rfl
      · have notAddressed := Bool.eq_false_iff.2 addressed
        rw [decideIndexed]
        simp only [if_neg addressed]
        cases found : positionIndexed? registry.limits index with
        | some position =>
            obtain ⟨rfl, inside⟩ := positionIndexed?_eq_some_iff.1 found
            have held := List.getElem?_eq_getElem inside
            rw [setByIndex_of_inside notAddressed held]
            simp only [held, Option.elim_some]
            cases Setting.parse registry.limits[position].apiProperty setting with
            | error fault => rfl
            | ok value => rfl
        | none =>
            have outside := ne_of_positionIndexed?_eq_none found
            rw [length_limits] at outside
            rw [setByIndex_of_outside notAddressed outside]
            rfl

theorem setByName_eq (registry : Registry) (name : Value) (provenance : Provenance)
    (setting : Value) :
    registry.setByName name provenance setting =
      (decideNamed registry.limits name provenance setting).map fun decided =>
        (decided.1, registry.carriedOut decided.2) := by
  rw [decideNamed, ← indexOf_eq]
  by_cases unknown : registry.indexOf name = -1
  · rw [setByName_of_unknown unknown, if_pos unknown]
    rfl
  · rw [setByName_of_known unknown, if_neg unknown, setByIndex_eq]
    cases decideIndexed registry.limits (.int (registry.indexOf name)) provenance setting with
    | error fault => rfl
    | ok impact => rfl

theorem setValue_eq (registry : Registry) (target : Target) (provenance : Provenance)
    (value : Value) :
    registry.setValue target provenance value =
      (decideItem registry.limits registry.exhibit target provenance value).map
        registry.carriedOut := by
  cases provenance with
  | other other => rfl
  | state state =>
      cases value with
      | int value =>
          rw [decideItem]
          cases found : positionOfTarget? registry.limits target with
          | some position =>
              rw [setValue_of_managed found]
              rfl
          | none =>
              rw [setValue_of_unmanaged found]
              rfl
      | _ => rfl

/-- A call is its decision carried out. -/
theorem perform_eq (registry : Registry) (call : Call Target) :
    registry.perform call =
      (call.decision registry.limits registry.exhibit).map fun decided =>
        (decided.1, registry.carriedOut decided.2) := by
  cases call with
  | secureProcessing secure => rfl
  | named name provenance setting =>
      rw [perform, setByName_eq, Call.decision]
      cases decideNamed registry.limits name provenance setting with
      | error fault => rfl
      | ok decided => rfl
  | item target provenance value =>
      rw [perform, setValue_eq, Call.decision]
      cases decideItem registry.limits registry.exhibit target provenance value with
      | error fault => rfl
      | ok impact => rfl
  | indexed index provenance setting =>
      rw [perform, setByIndex_eq, Call.decision]
      cases decideIndexed registry.limits index provenance setting with
      | error fault => rfl
      | ok impact => rfl

/-- A registry behind a call is the one behind an impact, or the one from before. -/
theorem after_eq_of_decision (registry : Registry) (call : Call Target) :
    registry.after call =
      match call.decision registry.limits registry.exhibit with
      | .ok decided => registry.applied decided.2
      | .error _ => registry := by
  rw [after, perform_eq]
  cases call.decision registry.limits registry.exhibit with
  | error fault => rfl
  | ok decided => rfl

/-! ### Impacts and decisions -/

/-- The impact of a decision. A fault comes to nothing. -/
def Impact.ofDecision (decided : Except Fault Impact) : Impact :=
  decided.toOption.getD .nothing

theorem impact_indexed (limits : List Limit) (index : Value) (provenance : Provenance)
    (setting : Value) :
    Call.impact limits (.indexed index provenance setting) =
      .ofDecision (decideIndexed limits index provenance setting) := by
  rw [Call.impact]
  cases provenance with
  | other other =>
      split
      · rfl
      · split <;> rfl
  | state state =>
      rw [decideIndexed]
      split
      · rfl
      · cases positionIndexed? limits index with
        | none => rfl
        | some position =>
            let property := (limits[position]?).elim .absent Limit.apiProperty
            simp only [Impact.ofSetting, ← Setting.toOption_parse property]
            cases Setting.parse property setting with
            | error fault => rfl
            | ok value => rfl

theorem impact_item (limits : List Limit) (shown : Exhibit) (target : Target)
    (provenance : Provenance) (value : Value) :
    Call.impact limits (.item target provenance value) =
      .ofDecision (decideItem limits shown target provenance value) := by
  rw [Call.impact]
  cases provenance with
  | other other => split <;> rfl
  | state state =>
      cases value with
      | int value =>
          rw [decideItem]
          cases positionOfTarget? limits target with
          | none => rfl
          | some position => rfl
      | _ => split <;> rfl

/-- A name comes to what its index comes to, as long as no limit stands at the index of the
report of entity counts. -/
theorem impact_named {limits : List Limit} (short : limits.length ≤ entityCountInfoIndex)
    (name : Value) (provenance : Provenance) (setting : Value) :
    Call.impact limits (.named name provenance setting) =
      if indexNamed limits name = -1 then .nothing
      else Call.impact limits (.indexed (.int (indexNamed limits name)) provenance setting) := by
  rw [Call.impact, indexNamed]
  cases found : positionNamed? limits name with
  | some position =>
      have inside : position < limits.length := lt_of_firstPosition? found
      have notAddressed : addressesEntityCounts (.int position) = false :=
        addressesEntityCounts_of_lt (Nat.lt_of_lt_of_le inside short)
      dsimp only
      rw [if_neg (by omega), Call.impact, notAddressed,
        positionIndexed?_eq_some_iff.2 ⟨rfl, inside⟩]
      rfl
  | none =>
      by_cases isEntityCounts : name.equals (.text entityCountInfo) = true
      · simp only [isEntityCounts, if_true]
        rfl
      · simp only [isEntityCounts, Bool.false_eq_true, if_false, if_true]

/-- The impact of a call is that of its decision. -/
theorem impact_eq_ofDecision {limits : List Limit} (short : limits.length ≤ entityCountInfoIndex)
    (shown : Exhibit) (call : Call Target) :
    call.impact limits = .ofDecision ((call.decision limits shown).map Prod.snd) := by
  cases call with
  | secureProcessing secure => rfl
  | named name provenance setting =>
      rw [impact_named short, impact_indexed, Call.decision, decideNamed]
      by_cases unknown : indexNamed limits name = -1
      · rw [if_pos unknown, if_pos unknown]
        rfl
      · rw [if_neg unknown, if_neg unknown]
        cases decideIndexed limits _ provenance setting with
        | error fault => rfl
        | ok impact => rfl
  | item target provenance value =>
      rw [impact_item _ shown, Call.decision]
      cases decideItem limits shown target provenance value with
      | error fault => rfl
      | ok impact => rfl
  | indexed index provenance setting =>
      rw [impact_indexed, Call.decision]
      cases decideIndexed limits index provenance setting with
      | error fault => rfl
      | ok impact => rfl

/-- A call does what its impact says. -/
theorem after_eq_applied {registry : Registry}
    (short : registry.limits.length ≤ entityCountInfoIndex) (call : Call Target) :
    registry.after call = registry.applied (call.impact registry.limits) := by
  rw [after_eq_of_decision, impact_eq_ofDecision short registry.exhibit]
  cases call.decision registry.limits registry.exhibit with
  | error fault => rfl
  | ok decided => rfl

end ProtectionLimits.Registry
