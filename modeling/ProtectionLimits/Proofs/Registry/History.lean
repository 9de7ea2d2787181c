import ProtectionLimits.Proofs.Registry.Bootstrap

/-!
Contract: what a history of calls leaves of a registry.

Owns the impacts of a history, and among them the writes that are addressed to one
row, the settings for the report of entity counts and the requests for secure
processing. All of them are read off the table and the calls. Behind the history
each row is settled by its writes, and what is not in a row is what was asked for
last.
-/

set_option autoImplicit false

namespace ProtectionLimits

attribute [ext] Registry

namespace Registry

def impacts (limits : List Limit) (calls : List (Call Target)) : List Impact :=
  calls.map (Call.impact limits)

def appliedAll (registry : Registry) (impacts : List Impact) : Registry :=
  impacts.foldl applied registry

/-- The writes that are addressed to the row at a position, in order. -/
def writesTo (limits : List Limit) (position : Nat) (impacts : List Impact) : List Write :=
  impacts.filterMap (Impact.writeAt? limits position)

/-- The settings for the report of entity counts, in order. -/
def settingsAmong (impacts : List Impact) : List Value := impacts.filterMap Impact.entityCounts?

/-- The requests for secure processing, in order. -/
def requestsAmong (impacts : List Impact) : List Value := impacts.filterMap Impact.secure?

theorem writesTo_cons (limits : List Limit) (position : Nat) (impact : Impact)
    (rest : List Impact) :
    writesTo limits position (impact :: rest) =
      (impact.writeAt? limits position).toList ++ writesTo limits position rest := by
  simp only [writesTo, List.filterMap_cons]
  split <;> rename_i written <;> rw [written] <;> rfl

/-- What is said last is what the rest says last, and the first thing if the rest says
nothing. -/
theorem getLast?_filterMap_cons {Item Said : Type} (said : Item → Option Said) (item : Item)
    (rest : List Item) (before : Said) :
    ((item :: rest).filterMap said).getLast?.getD before =
      (rest.filterMap said).getLast?.getD ((said item).getD before) := by
  rw [List.filterMap_cons]
  cases said item with
  | none => rfl
  | some first => rw [List.getLast?_cons, Option.getD_some, Option.getD_some]

/-! ### One impact -/

theorem limits_applied (registry : Registry) (impact : Impact) :
    (registry.applied impact).limits = registry.limits := by
  cases impact with
  | everyRow secure => exact limits_setSecureProcessing registry secure
  | row position write => exact limits_offerAt registry position write.state write.value
  | _ => rfl

/-- An impact settles each row by what it offers there. -/
theorem getElem?_rows_applied (registry : Registry) (impact : Impact) (position : Nat) :
    (registry.applied impact).rows[position]? =
      registry.rows[position]?.map fun row =>
        row.settle (impact.writeAt? registry.limits position).toList := by
  cases impact with
  | everyRow secure =>
      simp only [applied, setSecureProcessing, Impact.writeAt?, List.getElem?_map,
        getElem?_limits]
      cases registry.rows[position]? <;> rfl
  | row place write =>
      rw [applied, getElem?_rows_offerAt, Impact.writeAt?]
      by_cases addressed : place = position
      · rw [if_pos addressed, if_pos addressed]
        rfl
      · rw [if_neg addressed, if_neg addressed]
        cases registry.rows[position]? <;> rfl
  | entityCounts setting =>
      simp only [applied, Impact.writeAt?, Option.toList_none, Row.settle_nil, Option.map_id']
  | nothing =>
      simp only [applied, Impact.writeAt?, Option.toList_none, Row.settle_nil, Option.map_id']

/-- The row that an impact is addressed to receives what is written to it. -/
theorem getElem?_rows_written {registry : Registry} {position : Nat} {row : Row}
    (held : registry.rows[position]? = some row) (write : Write) :
    (registry.applied (.row position write)).rows[position]? = some (row.receive write) := by
  rw [getElem?_rows_applied, held, Impact.writeAt?, if_pos rfl]
  rfl

theorem entityCounts_applied (registry : Registry) (impact : Impact) :
    (registry.applied impact).entityCounts = impact.entityCounts?.getD registry.entityCounts := by
  cases impact with
  | row position write =>
      rw [applied, registry_offerAt]
      rfl
  | _ => rfl

theorem secure_applied (registry : Registry) (impact : Impact) :
    (registry.applied impact).secure = impact.secure?.getD registry.secure := by
  cases impact with
  | row position write =>
      rw [applied, registry_offerAt]
      rfl
  | _ => rfl

theorem source_applied (registry : Registry) (impact : Impact) :
    (registry.applied impact).source = registry.source := by
  cases impact with
  | row position write => rw [applied, registry_offerAt]
  | _ => rfl

theorem names_applied (registry : Registry) (impact : Impact) :
    (registry.applied impact).names = registry.names := by
  cases impact with
  | row position write => rw [applied, registry_offerAt]
  | _ => rfl

/-! ### Whole histories -/

/-- A history does what its impacts say. They stay the same all along, since no call
changes the table. -/
theorem afterAll_eq_appliedAll {registry : Registry}
    (short : registry.limits.length ≤ entityCountInfoIndex) (calls : List (Call Target)) :
    registry.afterAll calls = registry.appliedAll (impacts registry.limits calls) := by
  induction calls generalizing registry with
  | nil => rfl
  | cons call rest inductionHypothesis =>
      have stillShort : (registry.after call).limits.length ≤ entityCountInfoIndex := by
        rw [limits_after]
        exact short
      rw [afterAll_cons, inductionHypothesis stillShort, limits_after, after_eq_applied short]
      rfl

/-- Each row is settled by the writes that are addressed to it. -/
theorem getElem?_rows_appliedAll (registry : Registry) (impacts : List Impact)
    (position : Nat) :
    (registry.appliedAll impacts).rows[position]? =
      registry.rows[position]?.map fun row =>
        row.settle (writesTo registry.limits position impacts) := by
  induction impacts generalizing registry with
  | nil =>
      simp only [appliedAll, List.foldl_nil, writesTo, List.filterMap_nil, Row.settle_nil,
        Option.map_id']
  | cons impact rest inductionHypothesis =>
      rw [appliedAll, List.foldl_cons, ← appliedAll, inductionHypothesis, limits_applied,
        getElem?_rows_applied, Option.map_map, writesTo_cons]
      simp only [Function.comp_def, Row.settle_append]

/-- What each impact leaves as it asks for is in the end what was asked for last. -/
theorem field_appliedAll {Field : Type} (field : Registry → Field)
    (asked : Impact → Option Field)
    (step : ∀ registry impact,
      field (registry.applied impact) = (asked impact).getD (field registry))
    (registry : Registry) (impacts : List Impact) :
    field (registry.appliedAll impacts) =
      (impacts.filterMap asked).getLast?.getD (field registry) := by
  induction impacts generalizing registry with
  | nil => rfl
  | cons impact rest inductionHypothesis =>
      rw [appliedAll, List.foldl_cons, ← appliedAll, inductionHypothesis, step,
        getLast?_filterMap_cons]

theorem entityCounts_appliedAll (registry : Registry) (impacts : List Impact) :
    (registry.appliedAll impacts).entityCounts =
      (settingsAmong impacts).getLast?.getD registry.entityCounts :=
  field_appliedAll Registry.entityCounts Impact.entityCounts? entityCounts_applied registry impacts

theorem secure_appliedAll (registry : Registry) (impacts : List Impact) :
    (registry.appliedAll impacts).secure =
      (requestsAmong impacts).getLast?.getD registry.secure :=
  field_appliedAll Registry.secure Impact.secure? secure_applied registry impacts

/-- What no impact changes is in the end what it was. -/
theorem kept_appliedAll {Field : Type} (field : Registry → Field)
    (step : ∀ registry impact, field (registry.applied impact) = field registry)
    (registry : Registry) (impacts : List Impact) :
    field (registry.appliedAll impacts) = field registry := by
  induction impacts generalizing registry with
  | nil => rfl
  | cons impact rest inductionHypothesis =>
      rw [appliedAll, List.foldl_cons, ← appliedAll, inductionHypothesis, step]

theorem source_appliedAll (registry : Registry) (impacts : List Impact) :
    (registry.appliedAll impacts).source = registry.source :=
  kept_appliedAll Registry.source source_applied registry impacts

theorem names_appliedAll (registry : Registry) (impacts : List Impact) :
    (registry.appliedAll impacts).names = registry.names :=
  kept_appliedAll Registry.names names_applied registry impacts

/-- Behind any calls, failed ones among them and each at its own level of the log, every
row of a registry is settled by the writes that were addressed to it: it has the highest
state of all, the value that came last with that state, and its flag up exactly if a
write reached the state that it began with. The settings beside the rows are those that
were asked for last. A registry begins with all flags down, whatever it is loaded
from. -/
theorem settled_by_history {start : Registry}
    (short : start.limits.length ≤ entityCountInfoIndex)
    (integral : ∀ limit ∈ start.limits, limit.IsIntegral) (calls : List (Int × Call Target)) :
    ∃ final,
      (Form.sound start).afterAll calls = .sound final ∧
      final.limits = start.limits ∧
      (∀ (position : Nat) (row : Row), start.rows[position]? = some row →
        ∃ settled, final.rows[position]? = some settled ∧
          row.IsSettled
            (writesTo start.limits position (impacts start.limits (calls.map Prod.snd)))
            settled) ∧
      final.entityCounts =
        (settingsAmong (impacts start.limits (calls.map Prod.snd))).getLast?.getD
          start.entityCounts ∧
      final.secure =
        (requestsAmong (impacts start.limits (calls.map Prod.snd))).getLast?.getD start.secure ∧
      (∀ creation level, (create creation level).result = .ok start → start.IsBegun) ∧
      (start.IsBegun → ∀ row ∈ start.rows, row.isSet = false) := by
  refine ⟨start.afterAll (calls.map Prod.snd), afterAll_sound integral calls,
    limits_afterAll start _, ?_, ?_, ?_, ?_, ?_⟩
  · intro position row held
    refine ⟨row.settle _, ?_, row.isSettled_settle _⟩
    rw [afterAll_eq_appliedAll short, getElem?_rows_appliedAll, held]
    rfl
  · rw [afterAll_eq_appliedAll short, entityCounts_appliedAll]
  · rw [afterAll_eq_appliedAll short, secure_appliedAll]
  · intro creation level made
    exact isBegun_of_create made
  · intro begun
    exact begun.isSet

/-- The standard registry behind a setting from a configuration file, a request for secure
processing, a setting below zero through the API and a late one from the environment. -/
theorem settled_by_history_standard :
    ∃ start : Registry,
      start.limits = Limit.standardTable ∧
      start.limits.length ≤ entityCountInfoIndex ∧
      (∀ limit ∈ start.limits, limit.IsIntegral) ∧
      ∃ final settled,
        (Form.sound start).afterAll
          [(10, .named (.text "entity_expansion_limit") (.state .configFile) (.text "12")),
            (0, .secureProcessing (.bool true)),
            (10, .indexed (.int 0) (.state .apiProperty) (.int (-5))),
            (20, .item (.item StandardLimit.entityExpansion.limit) (.state .environment)
              (.int 7))] = .sound final ∧
        final.rows[0]? = some settled ∧
        (Row.initial false StandardLimit.entityExpansion.limit).IsSettled
          [⟨.configFile, .int 12⟩, ⟨.secureProcessing, .int 64000⟩, ⟨.apiProperty, .int 0⟩,
            ⟨.environment, .int 7⟩] settled := by
  let start : Registry :=
    ⟨Limit.standardTable.map (Row.initial false), .text "", .bool false, .text "source", .absent⟩
  have table : start.limits = Limit.standardTable := rfl
  have short : start.limits.length ≤ entityCountInfoIndex := by
    rw [table]
    decide
  have integral : ∀ limit ∈ start.limits, limit.IsIntegral := by
    rw [table]
    intro limit member
    obtain ⟨standard, -, rfl⟩ := List.mem_map.1 member
    exact ⟨⟨_, rfl⟩, ⟨_, rfl⟩⟩
  obtain ⟨final, run, -, rows, -⟩ := settled_by_history short integral
    [(10, .named (.text "entity_expansion_limit") (.state .configFile) (.text "12")),
      (0, .secureProcessing (.bool true)),
      (10, .indexed (.int 0) (.state .apiProperty) (.int (-5))),
      (20, .item (.item StandardLimit.entityExpansion.limit) (.state .environment) (.int 7))]
  obtain ⟨settled, held, isSettled⟩ := rows 0 _ rfl
  exact ⟨start, table, short, integral, final, settled, run, held, isSettled⟩

end Registry

end ProtectionLimits
