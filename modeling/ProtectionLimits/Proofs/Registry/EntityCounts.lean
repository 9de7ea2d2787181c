import ProtectionLimits.Proofs.Fault.Untranslated
import ProtectionLimits.Proofs.Registry.History
import ProtectionLimits.Proofs.Registry.Reading

/-!
Contract: how the names of limits and the report of entity counts keep apart.

Owns whether a name reaches its limit (`ReachesLimit`), and where the limits stand that
no name reaches. The report of entity counts is addressed by an index that is meant to be
outside the table. A table may be so long that a limit stands there: then whatever is set
by a name of that limit is taken for the report, and this is the only such limit. The
name of the report itself never reaches a limit that does not answer to it.
-/

set_option autoImplicit false

namespace ProtectionLimits.Registry

/-- Whether a name reaches a limit: what is set by it leaves the report of entity counts
alone, is checked as the setting of a limit, and through the API is what is read back. -/
structure ReachesLimit (registry : Registry) (name : Value) : Prop where
  entityCounts : ∀ level provenance setting, ∃ reached,
    ((Form.sound registry).perform level (.named name provenance setting)).form =
        .sound reached ∧
      reached.entityCounts = registry.entityCounts
  refuses : ∀ level state content, Setting.value? (.text content) = none →
    ∃ fault limit reason, limit ∈ registry.limits ∧ limit.answersTo name = true ∧
      ((Form.sound registry).perform level (.named name (.state state) (.text content))).result =
        .error fault ∧
      fault.report .identity = Fault.refusalReport content limit.apiProperty reason
  reads : ∀ level setting reply outcome,
    (Form.sound registry).perform level (.named name (.state .apiProperty) setting) = outcome →
    outcome.result = .ok reply → ∃ value index,
      Setting.value? setting = some value ∧
      outcome.form.answer (.indexOf name) = .ok (.integer index) ∧
      outcome.form.answer (.indexed .value (.int index)) = .ok (.integer value) ∧
      (Decimal.isTooLong value = false →
        outcome.form.answer (.textNamed name) = .ok (.text (Decimal.integer value)))

section Names

variable {registry : Registry} {name : Value} {position : Nat} {limit : Limit}

/-! ### Settings by the name of a limit -/

/-- A setting by a name has no events but those of an offer to one row. -/
theorem form_perform_named (level : Int) {provenance : Provenance} {setting : Value}
    {known : Bool} {impact : Impact}
    (decided : decideNamed registry.limits name provenance setting = .ok (known, impact)) :
    (Form.sound registry).perform level (.named name provenance setting) =
      ⟨.sound (registry.applied impact), .ok (.truth known),
        (Event.writeAll level (registry.eventsOf impact)).1⟩ := by
  have decision : Call.decision registry.limits registry.exhibit (.named name provenance setting) =
      .ok (.truth known, impact) := by
    rw [Call.decision, decided]
    rfl
  exact form_perform_of_setting decision trivial level

theorem form_perform_named_of_fault (level : Int) {provenance : Provenance} {setting : Value}
    {fault : Fault}
    (decided : decideNamed registry.limits name provenance setting = .error fault) :
    (Form.sound registry).perform level (.named name provenance setting) =
      ⟨.sound registry, .error fault, []⟩ := by
  refine form_perform_of_fault ?_ level
  rw [Call.decision, decided]
  rfl

/-- A setting by a name leaves the registry as it was, or as what it decides on makes it. -/
theorem form_perform_named_cases (registry : Registry) (name : Value) (level : Int)
    (provenance : Provenance) (setting : Value) :
    ∃ reached,
      ((Form.sound registry).perform level (.named name provenance setting)).form =
        .sound reached ∧
      (reached = registry ∨ ∃ known impact,
        decideNamed registry.limits name provenance setting = .ok (known, impact) ∧
        reached = registry.applied impact) := by
  cases decided : decideNamed registry.limits name provenance setting with
  | error fault =>
      rw [form_perform_named_of_fault level decided]
      exact ⟨registry, rfl, .inl rfl⟩
  | ok decision =>
      rw [form_perform_named level decided]
      exact ⟨_, rfl, .inr ⟨_, _, rfl, rfl⟩⟩

theorem decideNamed_of_inside (notAddressed : addressesEntityCounts (.int position) = false)
    (named : positionNamed? registry.limits name = some position)
    (held : registry.limits[position]? = some limit) (state : State) (setting : Value) :
    decideNamed registry.limits name (.state state) setting =
      (Setting.parse limit.apiProperty setting).map fun value =>
        (true, .row position ⟨state, .int value⟩) := by
  rw [decideNamed_of_named named, decideIndexed_of_inside notAddressed held]
  cases Setting.parse limit.apiProperty setting <;> rfl

/-- By the name of a limit nothing is decided on but a value for its row. -/
theorem impact_of_inside (notAddressed : addressesEntityCounts (.int position) = false)
    (named : positionNamed? registry.limits name = some position)
    (held : registry.limits[position]? = some limit) {provenance : Provenance} {setting : Value}
    {known : Bool} {impact : Impact}
    (decided : decideNamed registry.limits name provenance setting = .ok (known, impact)) :
    ∃ write, impact = .row position write := by
  cases provenance with
  | other other =>
      rw [decideNamed_of_named named] at decided
      cases decided
  | state state =>
      rw [decideNamed_of_inside notAddressed named held] at decided
      obtain ⟨value, -, agreement⟩ := map_eq_ok decided
      cases agreement
      exact ⟨_, rfl⟩

/-- At the index of the report every setting with a state is taken for the report. -/
theorem perform_named_of_entityCounts
    (named : positionNamed? registry.limits name = some entityCountInfoIndex) (level : Int)
    (state : State) (setting : Value) :
    (Form.sound registry).perform level (.named name (.state state) setting) =
      ⟨.sound { registry with entityCounts := entityCountsSetting setting },
        .ok (.truth true), []⟩ := by
  have decided : decideNamed registry.limits name (.state state) setting =
      .ok (true, .entityCounts (entityCountsSetting setting)) := by
    rw [decideNamed_of_named named, decideIndexed_of_entityCounts rfl]
    rfl
  rw [form_perform_named level decided]
  rfl

/-! ### Names that reach their limits -/

/-- What is written to a row through the API is read back by its index and its name. -/
theorem answers_written (notAddressed : addressesEntityCounts (.int position) = false)
    (named : positionNamed? registry.limits name = some position)
    (inside : position < registry.limits.length) (value : Int) {reached : Registry}
    (written : reached = registry.applied (.row position ⟨.apiProperty, .int value⟩)) :
    reached.answer (.indexOf name) = .ok (.integer position) ∧
      reached.answer (.indexed .value (.int position)) = .ok (.integer value) ∧
      (Decimal.isTooLong value = false →
        reached.answer (.textNamed name) = .ok (.text (Decimal.integer value))) := by
  rw [length_limits] at inside
  have stillNamed : positionNamed? reached.limits name = some position := by
    rw [written, limits_applied]
    exact named
  obtain ⟨row, held, isValue⟩ :
      ∃ row, reached.rows[position]? = some row ∧ row.value = .int value := by
    rw [written, getElem?_rows_written (List.getElem?_eq_getElem inside)]
    refine ⟨_, rfl, ?_⟩
    rw [Row.receive, Row.offer_of_le (State.le_apiProperty _)]
  refine ⟨?_, ?_, ?_⟩
  · rw [answer, indexOf_of_named stillNamed]
  · rw [answer, answerIndexed, rowAt_of_held held, Except.map]
    simp only [isValue]
    rfl
  · intro short
    rw [answer, textNamed_of_named notAddressed stillNamed held, rowText, isValue,
      displayed_int short]
    rfl

/-- What is set by the name of a limit is no concern of the report. -/
theorem entityCounts_perform_named (notAddressed : addressesEntityCounts (.int position) = false)
    (named : positionNamed? registry.limits name = some position)
    (held : registry.limits[position]? = some limit) (level : Int) (provenance : Provenance)
    (setting : Value) :
    ∃ reached,
      ((Form.sound registry).perform level (.named name provenance setting)).form =
        .sound reached ∧
      reached.entityCounts = registry.entityCounts := by
  obtain ⟨reached, same, rfl | ⟨known, impact, decided, rfl⟩⟩ :=
    form_perform_named_cases registry name level provenance setting
  · exact ⟨_, same, rfl⟩
  · obtain ⟨write, rfl⟩ := impact_of_inside notAddressed named held decided
    exact ⟨_, same, entityCounts_applied registry (.row position write)⟩

/-- A text that is no setting is refused by the name of a limit, as one for its property. -/
theorem perform_named_of_no_setting (notAddressed : addressesEntityCounts (.int position) = false)
    (named : positionNamed? registry.limits name = some position)
    (held : registry.limits[position]? = some limit) (level : Int) (state : State)
    {content : String} (refused : Setting.value? (.text content) = none) :
    ∃ fault reason,
      ((Form.sound registry).perform level (.named name (.state state) (.text content))).result =
        .error fault ∧
      fault.report .identity = Fault.refusalReport content limit.apiProperty reason := by
  have decided := decideNamed_of_inside notAddressed named held state (.text content)
  obtain ⟨fault, parsed⟩ := Setting.exists_parse_error limit.apiProperty refused
  rw [parsed] at decided
  have isRefused : ((Form.sound registry).perform level
      (.named name (.state state) (.text content))).result = .error fault := by
    rw [form_perform_named_of_fault level decided]
  rcases Setting.parse_text_error parsed with rfl | rfl
  · exact ⟨_, _, isRefused, Fault.report_settingNotInteger content _⟩
  · exact ⟨_, _, isRefused, Fault.report_settingOutOfRange content _⟩

theorem reachesLimit_of_ne (named : positionNamed? registry.limits name = some position)
    (apart : position ≠ entityCountInfoIndex) : registry.ReachesLimit name := by
  have notAddressed : addressesEntityCounts (.int position) = false := by
    rw [addressesEntityCounts_int, beq_eq_false_iff_ne]
    omega
  have inside : position < registry.limits.length := lt_of_firstPosition? named
  have held := List.getElem?_eq_getElem inside
  constructor
  · exact entityCounts_perform_named notAddressed named held
  · intro level state content refused
    obtain ⟨⟨limit, atPosition, answers⟩, -⟩ := firstPosition?_spec named
    obtain ⟨fault, reason, isRefused, reported⟩ :=
      perform_named_of_no_setting notAddressed named atPosition level state refused
    exact ⟨fault, limit, reason, List.mem_of_getElem? atPosition, answers, isRefused, reported⟩
  · rintro level setting reply outcome rfl finished
    have decided := decideNamed_of_inside notAddressed named held .apiProperty setting
    cases parsed : Setting.parse registry.limits[position].apiProperty setting with
    | error fault =>
        rw [parsed] at decided
        rw [form_perform_named_of_fault level decided] at finished
        cases finished
    | ok value =>
        rw [parsed] at decided
        rw [form_perform_named level decided]
        refine ⟨value, position, ?_, answers_written notAddressed named inside value rfl⟩
        rw [← Setting.toOption_parse registry.limits[position].apiProperty, parsed]
        rfl

/-- At the index of the report a text that is no setting is not refused. -/
theorem not_reachesLimit
    (named : positionNamed? registry.limits name = some entityCountInfoIndex) :
    ¬ registry.ReachesLimit name := by
  intro reaches
  obtain ⟨fault, limit, reason, -, -, refused, -⟩ := reaches.refuses 0 .default "" rfl
  rw [perform_named_of_entityCounts named] at refused
  cases refused

/-- A name reaches its limit exactly if the limit does not stand at the index of the
report. -/
theorem reachesLimit_iff (named : positionNamed? registry.limits name = some position) :
    registry.ReachesLimit name ↔ position ≠ entityCountInfoIndex := by
  constructor
  · rintro reaches rfl
    exact not_reachesLimit named reaches
  · exact reachesLimit_of_ne named

/-! ### The name of the report -/

/-- What the name of the report sets is no concern of limits that do not answer to it. -/
theorem rows_of_entityCounts
    (apart : ∀ limit ∈ registry.limits, limit.answersTo (.text entityCountInfo) = false)
    (level : Int) (provenance : Provenance) (setting : Value) :
    ∃ reached,
      ((Form.sound registry).perform level
        (.named (.text entityCountInfo) provenance setting)).form = .sound reached ∧
      reached.rows = registry.rows := by
  have unnamed : positionNamed? registry.limits (.text entityCountInfo) = none :=
    firstPosition?_eq_none_iff.2 apart
  have index : indexNamed registry.limits (.text entityCountInfo) = entityCountInfoIndex := by
    rw [indexNamed, unnamed]
    rfl
  obtain ⟨reached, same, rfl | ⟨known, impact, decided, rfl⟩⟩ :=
    form_perform_named_cases registry (.text entityCountInfo) level provenance setting
  · exact ⟨_, same, rfl⟩
  · refine ⟨_, same, ?_⟩
    rw [decideNamed, index] at decided
    cases provenance with
    | other other => cases decided
    | state state =>
        rw [decideIndexed_of_entityCounts rfl] at decided
        cases decided
        rfl

end Names

/-- Every name that a limit answers to stands for the first such limit, and it reaches that
limit exactly if the limit does not stand at the index of the report of entity counts. What
is set by the name of a limit at that index is taken for the report: nothing is checked,
and no row changes. What is set by the name of the report changes no row either, as long as
no limit answers to it. All of this holds of tables of any length. -/
theorem names_reach_limits_apart_from_report (registry : Registry) :
    (∀ limit ∈ registry.limits, ∀ name, limit.answersTo name = true →
      ∃ position, positionNamed? registry.limits name = some position ∧
        (registry.ReachesLimit name ↔ position ≠ entityCountInfoIndex) ∧
        (position = entityCountInfoIndex → ∀ level state setting,
          (Form.sound registry).perform level (.named name (.state state) setting) =
            ⟨.sound { registry with entityCounts := entityCountsSetting setting },
              .ok (.truth true), []⟩)) ∧
    ((∀ limit ∈ registry.limits, limit.answersTo (.text entityCountInfo) = false) →
      ∀ level provenance setting, ∃ reached,
        ((Form.sound registry).perform level
          (.named (.text entityCountInfo) provenance setting)).form = .sound reached ∧
        reached.rows = registry.rows) := by
  constructor
  · intro limit member name answers
    cases named : positionNamed? registry.limits name with
    | none =>
        have unanswered := firstPosition?_eq_none_iff.1 named limit member
        rw [answers] at unanswered
        cases unanswered
    | some position =>
        refine ⟨position, rfl, reachesLimit_iff named, ?_⟩
        rintro rfl level state setting
        exact perform_named_of_entityCounts named level state setting
  · intro apart level provenance setting
    exact rows_of_entityCounts apart level provenance setting

/-- A registry over a table whose last limit stands at the index of the report: what is set
for this limit through the API leaves all rows as they were and asks for the report. -/
theorem last_limit_of_long_table_is_missed :
    ∃ (creation : Creation) (registry : Registry),
      (create creation 30).result = .ok registry ∧
      (∃ limit ∈ registry.limits, limit.answersTo (.text "deep") = true) ∧
      (Form.sound registry).perform 30 (.named (.text "deep") (.state .apiProperty) (.int 5)) =
        ⟨.sound { registry with entityCounts := .text yes }, .ok (.truth true), []⟩ ∧
      ¬ registry.ReachesLimit (.text "deep") := by
  let deep : Limit := ⟨.custom 0, .text "Deep", .text "deep", .text "X_DEEP", .int 0, .int 0⟩
  let front := List.replicate entityCountInfoIndex StandardLimit.maxName.limit
  let creation : Creation :=
    ⟨.bool false, .limits (front ++ [deep]), .prepared [], .absent, .absent, []⟩
  have served : ∀ limit ∈ front ++ [deep],
      IsServed (Source.prepared []).get (fun _ => none) .absent limit := by
    intro limit member
    have isText : ∃ property, limit.systemProperty = .text property := by
      rcases List.mem_append.1 member with inFront | isDeep
      · rw [List.eq_of_mem_replicate inFront]
        exact ⟨_, rfl⟩
      · rw [List.mem_singleton.1 isDeep]
        exact ⟨_, rfl⟩
    constructor
    · obtain ⟨property, same⟩ := isText
      rw [same]
      rfl
    · intro name asked
      obtain ⟨content, rfl⟩ := texts_of_standard isText name asked
      rfl
  have accepted : ¬ ∃ limit ∈ front ++ [deep], IsRefused (fun _ => none) .absent limit := by
    rintro ⟨limit, -, setting, state, found, -⟩
    simp only [found?, Option.bind_fun_none, reduceCtorEq] at found
  obtain ⟨registry, begun, -⟩ := bootstrap_of_not_refused creation.source.exhibit
    creation.secure (.inl rfl) served accepted
  have table := limits_of_bootstrap begun
  have named : positionNamed? registry.limits (.text "deep") = some entityCountInfoIndex := by
    have notEarlier : ∀ earlier ∈ front, earlier.answersTo (.text "deep") = false := by
      intro earlier member
      rw [List.eq_of_mem_replicate member]
      decide
    rw [table, positionNamed?, firstPosition?_split [] (by decide) notEarlier,
      List.length_replicate]
  refine ⟨creation, registry, ?_, ⟨deep, ?_, by decide⟩, ?_, not_reachesLimit named⟩
  · rw [result_create rfl (.inl rfl) rfl]
    exact begun
  · rw [table]
    exact List.mem_append_right front (List.mem_singleton_self deep)
  · exact perform_named_of_entityCounts named 30 .apiProperty (.int 5)

end ProtectionLimits.Registry
