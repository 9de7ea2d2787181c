import ProtectionLimits.Proofs.Registry.Contents
import ProtectionLimits.Proofs.Registry.Reading

/-!
Contract: that all ways of setting and of reading a limit lead to one row.

Owns the names that are a limit's own, what an offer to a row comes to (`IsOffer`), and
what is read of a row (`IsRead`). Names are found by going through the table, items by
their identity and indexes by counting. In a table of distinct items whose names are
their own, and which ends before the index of the report of entity counts, the three
find the same position, whatever has been set before.

Settings below zero are taken as zero; a value for an item is taken as it is.
-/

set_option autoImplicit false

namespace ProtectionLimits

def Limit.names (limit : Limit) : List Value := [limit.apiProperty, limit.systemProperty]

namespace Registry

/-- Whether each limit of a table answers to its names, and none to the names of another. -/
structure HasOwnNames (limits : List Limit) : Prop where
  answering : ∀ limit ∈ limits, ∀ name ∈ limit.names, limit.answersTo name = true
  apart : limits.Pairwise fun earlier later =>
    ∀ name ∈ later.names, earlier.answersTo name = false

/-- Whether an outcome is that of offering an integer to the row at a position. Where the state of
the row lets the offer through, the row has the integer, the state of the offer and a raised flag,
and where it does not the row is what it was. No other row changes, nothing beside the rows does,
and one entry is written at the levels that let it through. -/
structure IsOffer (registry : Registry) (position : Nat) (row : Row) (level : Int) (state : State)
    (value : Int) (reply : Reply) (outcome : Outcome) : Prop where
  form : outcome.form =
    .sound { registry with rows := registry.rows.set position (row.offer state (.int value)) }
  accepted : row.state ≤ state → row.offer state (.int value) = ⟨row.limit, .int value, state, true⟩
  refused : ¬ row.state ≤ state → row.offer state (.int value) = row
  result : outcome.result = .ok reply
  entries : ∃ text, (row.verdict state (.int value)).text = .ok text ∧
    outcome.entries = if Log.lets level .debug then [⟨.debug, text⟩] else []

/-- Whether all readings of a limit give one value, its text and one flag. -/
structure IsRead (registry : Registry) (position : Nat) (limit : Limit) (value : Value)
    (isSet : Bool) : Prop where
  byItem : registry.answer (.item .value (.item limit)) = .ok (.value value)
  byIndex : registry.answer (.indexed .value (.int position)) = .ok (.value value)
  amongItems : ∃ items state, registry.answer .items = .ok (.list items) ∧
    items[position]? = some (.list [.value limit.key, .value value, .state state])
  isSetByItem : registry.answer (.item .isSet (.item limit)) = .ok (.truth isSet)
  isSetByIndex : registry.answer (.indexed .isSet (.int position)) = .ok (.truth isSet)
  textByItem : registry.answer (.item .text (.item limit)) =
    (value.displayed.mapError .unwritable).map .text
  textByIndex : registry.answer (.indexed .text (.int position)) =
    (value.displayed.mapError .unwritable).map .text
  textByName : ∀ name ∈ limit.names, registry.answer (.textNamed name) =
    (value.displayed.mapError .unwritable).map .text

section Table

variable {limits : List Limit} {position : Nat} {limit : Limit}

/-! ### Finding a limit -/

/-- A limit answers to the texts that are its names. -/
theorem answersTo_text_iff {content : String} :
    limit.answersTo (.text content) = true ↔ Value.text content ∈ limit.names := by
  rw [Limit.answersTo, Bool.or_eq_true, Value.equals_text_iff, Value.equals_text_iff, Limit.names,
    List.mem_pair, @eq_comm _ limit.apiProperty, @eq_comm _ limit.systemProperty]

/-- Texts that no two limits share are names of their own. -/
theorem hasOwnNames_of_texts
    (texts : ∀ limit ∈ limits, ∀ name ∈ limit.names, ∃ content, name = .text content)
    (apart : limits.Pairwise fun earlier later =>
      ∀ name ∈ later.names, name ∉ earlier.names) : HasOwnNames limits := by
  constructor
  · intro limit member name isName
    obtain ⟨content, rfl⟩ := texts limit member name isName
    exact answersTo_text_iff.2 isName
  · refine apart.imp_of_mem ?_
    intro earlier later _ member disjoint name isName
    obtain ⟨content, rfl⟩ := texts later member name isName
    rw [← Bool.not_eq_true, answersTo_text_iff]
    exact disjoint _ isName

/-- A limit is the first that answers to a name of its own. -/
theorem positionNamed?_of_own (own : HasOwnNames limits) (held : limits[position]? = some limit)
    {name : Value} (isOwn : name ∈ limit.names) :
    positionNamed? limits name = some position := by
  have answers := own.answering limit (List.mem_of_getElem? held) name isOwn
  have apart := own.apart
  obtain ⟨front, rest, rfl, rfl⟩ := exists_split held
  refine firstPosition?_split rest answers ?_
  intro earlier inFront
  exact (List.pairwise_append.1 apart).2.2 earlier inFront limit (List.mem_cons_self ..) name isOwn

/-- A limit stands at the last place of its identity if it stands in one place only. -/
theorem positionOfTarget?_of_distinct (distinct : (limits.map Limit.identity).Nodup)
    (held : limits[position]? = some limit) :
    positionOfTarget? limits (.item limit) = some position := by
  have apart := List.pairwise_map.1 distinct
  obtain ⟨front, rest, rfl, rfl⟩ := exists_split held
  refine lastPosition?_split front (beq_self_eq_true limit.identity) ?_
  intro later inRest
  have different := (List.pairwise_cons.1 (List.pairwise_append.1 apart).2.1).1 later inRest
  exact beq_eq_false_iff_ne.2 different.symm

end Table

section Rows

variable {registry : Registry} {position : Nat} {row : Row}

/-! ### Setting a limit -/

theorem isOffer_of_decision {call : Call Target} {reply : Reply} {state : State} {value : Int}
    (held : registry.rows[position]? = some row)
    (decided : call.decision registry.limits registry.exhibit =
      .ok (reply, .row position ⟨state, .int value⟩)) (level : Int) :
    registry.IsOffer position row level state value reply
      ((Form.sound registry).perform level call) := by
  have notRequest : ∀ secure, call = .secureProcessing secure →
      ∀ limit ∈ registry.limits, limit.IsIntegral := by
    rintro secure rfl
    cases decided
  rw [form_perform_of_impact notRequest decided level]
  constructor
  · rw [applied, offerAt, held]
  · exact fun accepted => Row.offer_of_le accepted (.int value)
  · exact fun rejected => Row.offer_of_not_le rejected (.int value)
  · rfl
  · obtain ⟨text, shown⟩ := Event.isShown_verdict row state value
    refine ⟨text, shown, ?_⟩
    have severity : (row.verdict state (.int value)).severity = .debug := by
      unfold Row.verdict
      split <;> rfl
    rw [eventsOf, offerAt, held]
    simp only [Event.writeAll, severity, shown]
    split <;> rfl

/-- A setting by index or by name offers what is left of an integer that is cut off below
zero, and a value for an item the integer itself. -/
theorem isOffer_of_entryPoint {limit : Limit}
    (notAddressed : addressesEntityCounts (.int position) = false)
    (held : registry.rows[position]? = some row)
    (heldLimit : registry.limits[position]? = some limit)
    (named : ∀ name ∈ limit.names, positionNamed? registry.limits name = some position)
    (managed : positionOfTarget? registry.limits (.item limit) = some position)
    (level : Int) (state : State) (value : Int) :
    (∀ name ∈ limit.names, registry.IsOffer position row level state (max 0 value) (.truth true)
        ((Form.sound registry).perform level (.named name (.state state) (.int value)))) ∧
      registry.IsOffer position row level state (max 0 value) .nothing
        ((Form.sound registry).perform level
          (.indexed (.int position) (.state state) (.int value))) ∧
      registry.IsOffer position row level state value .nothing
        ((Form.sound registry).perform level
          (.item (.item limit) (.state state) (.int value))) := by
  refine ⟨?_, ?_, ?_⟩
  · intro name isName
    refine isOffer_of_decision held ?_ level
    rw [Call.decision, decideNamed_of_named (named name isName),
      decideIndexed_of_inside notAddressed heldLimit]
    rfl
  · refine isOffer_of_decision held ?_ level
    rw [Call.decision, decideIndexed_of_inside notAddressed heldLimit]
    rfl
  · refine isOffer_of_decision held ?_ level
    rw [Call.decision, decideItem_of_managed managed]
    rfl

/-! ### Reading a limit -/

/-- A text that was read is replied as it is. -/
theorem map_text (row : Row) :
    ((rowText row).map Value.text).map Reply.value =
      (row.value.displayed.mapError .unwritable).map .text := by
  rw [rowText]
  cases row.value.displayed <;> rfl

theorem isRead_of_held {limit : Limit}
    (notAddressed : addressesEntityCounts (.int position) = false)
    (held : registry.rows[position]? = some row) (sameLimit : row.limit = limit)
    (named : ∀ name ∈ limit.names, positionNamed? registry.limits name = some position)
    (managed : positionOfTarget? registry.limits (.item limit) = some position) :
    registry.IsRead position limit row.value row.isSet := by
  constructor
  · rw [answer, answerItem, rowOf_of_managed managed held]
    rfl
  · rw [answer, answerIndexed, rowAt_of_held held]
    rfl
  · refine ⟨_, row.state, rfl, ?_⟩
    rw [List.getElem?_map, held, Option.map_some, sameLimit]
  · rw [answer, answerItem, rowOf_of_managed managed held]
    rfl
  · rw [answer, answerIndexed, rowAt_of_held held]
    rfl
  · rw [answer, answerItem, rowOf_of_managed managed held]
    rfl
  · rw [answer, answerIndexed, textAt_of_held notAddressed held, map_text]
  · intro name isName
    rw [answer, textNamed_of_named notAddressed (named name isName) held, map_text]

end Rows

/-- All ways of setting a limit offer to its row, and all ways of reading it read its row,
behind any calls on a table of distinct items with names of their own that ends before the
index of the report of entity counts. Only a value for an item is taken as it is below
zero. Over a table of integers what is read is an integer, and as text its decimal form unless
it has too many digits. -/
theorem entry_points_agree {start : Registry} (begun : start.IsBegun)
    (short : start.limits.length ≤ entityCountInfoIndex)
    (distinct : (start.limits.map Limit.identity).Nodup) (own : HasOwnNames start.limits)
    (calls : List (Int × Call Target)) :
    ∃ registry,
      (Form.sound start).afterAll calls = .sound registry ∧
      ∀ position limit, start.limits[position]? = some limit →
        ∃ row, registry.rows[position]? = some row ∧ row.limit = limit ∧
          (∀ level state value,
            (∀ name ∈ limit.names,
              registry.IsOffer position row level state (max 0 value) (.truth true)
                ((Form.sound registry).perform level
                  (.named name (.state state) (.int value)))) ∧
            registry.IsOffer position row level state (max 0 value) .nothing
              ((Form.sound registry).perform level
                (.indexed (.int position) (.state state) (.int value))) ∧
            registry.IsOffer position row level state value .nothing
              ((Form.sound registry).perform level
                (.item (.item limit) (.state state) (.int value)))) ∧
          registry.IsRead position limit row.value row.isSet ∧
          (HasOwnKeys start.limits → ∃ entries, registry.byKey = .ok entries ∧
            Value.lookup? limit.key entries = some row.value) ∧
          ((∀ limit ∈ start.limits, limit.IsIntegral) → ∃ value : Int,
            row.value = .int value ∧
            (Decimal.isTooLong value = false →
              row.value.displayed = .ok (Decimal.integer value))) := by
  obtain ⟨registry, run, table⟩ := exists_sound_afterAll start calls
  have holds : (∀ limit ∈ start.limits, limit.IsIntegral) → registry.Holds fun _ => True := by
    intro integral
    have same := run.symm.trans (afterAll_sound integral calls)
    injection same with same
    rw [same]
    obtain ⟨lookup, source, names, secure, limits, begun⟩ := begun
    rw [limits_of_bootstrap begun] at integral
    exact holds_integers integral begun _
  refine ⟨registry, run, ?_⟩
  intro position limit heldLimit
  rw [← table] at short distinct own heldLimit ⊢
  have inside : position < registry.limits.length := (List.getElem?_eq_some_iff.1 heldLimit).1
  have notAddressed : addressesEntityCounts (.int position) = false :=
    addressesEntityCounts_of_lt (Nat.lt_of_lt_of_le inside short)
  have named : ∀ name ∈ limit.names, positionNamed? registry.limits name = some position :=
    fun _ isName => positionNamed?_of_own own heldLimit isName
  have managed := positionOfTarget?_of_distinct distinct heldLimit
  obtain ⟨row, held, sameLimit⟩ :
      ∃ row, registry.rows[position]? = some row ∧ row.limit = limit := by
    rw [getElem?_limits] at heldLimit
    exact Option.map_eq_some_iff.1 heldLimit
  refine ⟨row, held, sameLimit, ?_, ?_, ?_, ?_⟩
  · intro level state offered
    exact isOffer_of_entryPoint notAddressed held heldLimit named managed level state offered
  · exact isRead_of_held notAddressed held sameLimit named managed
  · intro ownKeys
    rw [← sameLimit]
    exact lookup?_byKey ownKeys distinct held
  · intro integral
    rw [table] at integral
    obtain ⟨value, isInteger, -⟩ := (holds integral).rows row (List.mem_of_getElem? held)
    refine ⟨value, isInteger, ?_⟩
    rw [isInteger]
    exact displayed_int

/-- The limit for names in the standard table, behind a setting that raised it: by its name a
number below zero is offered as zero, and for the item as it is. -/
theorem entry_points_agree_standard :
    ∃ start registry : Registry,
      start.IsBegun ∧ start.limits = Limit.standardTable ∧
      start.limits.length ≤ entityCountInfoIndex ∧
      (start.limits.map Limit.identity).Nodup ∧
      HasOwnNames start.limits ∧ HasOwnKeys start.limits ∧
      (∀ limit ∈ start.limits, limit.IsIntegral) ∧
      (Form.sound start).afterAll
        [(10, .named (.text "max_xml_name_limit") (.state .environment) (.text "2000"))] =
          .sound registry ∧
      ∃ row value,
        registry.rows[7]? = some row ∧
        registry.IsOffer 7 row 10 .apiProperty 0 (.truth true)
          ((Form.sound registry).perform 10
            (.named (.text "XMLLIMITS_MAX_XML_NAME_LIMIT") (.state .apiProperty) (.int (-5)))) ∧
        registry.IsOffer 7 row 10 .apiProperty (-5) .nothing
          ((Form.sound registry).perform 10
            (.item (.item StandardLimit.maxName.limit) (.state .apiProperty) (.int (-5)))) ∧
        registry.IsRead 7 StandardLimit.maxName.limit (.int value) row.isSet ∧
        ∃ entries, registry.byKey = .ok entries ∧
          Value.lookup? (.text "MaxXMLNameLimit") entries = some (.int value) := by
  obtain ⟨start, begun⟩ : ∃ start, (bootstrap (Source.prepared []).get (.text "source") .absent
    (.bool true) Limit.standardTable).2 = .ok start := ⟨_, rfl⟩
  have table := limits_of_bootstrap begun
  have isBegun : start.IsBegun := ⟨_, _, _, _, _, begun⟩
  have short : start.limits.length ≤ entityCountInfoIndex := by
    rw [table]
    decide
  have distinct : (start.limits.map Limit.identity).Nodup := by
    rw [table]
    decide
  have ownNames : HasOwnNames start.limits := by
    rw [table]
    apply hasOwnNames_of_texts
    · intro limit member name isName
      obtain ⟨standard, -, rfl⟩ := List.mem_map.1 member
      rcases List.mem_pair.1 isName with rfl | rfl
      · exact ⟨_, rfl⟩
      · exact ⟨_, rfl⟩
    · simp [Limit.standardTable, StandardLimit.all, StandardLimit.limit, StandardLimit.entry,
        Limit.names]
  have ownKeys : HasOwnKeys start.limits := by
    rw [table]
    exact ⟨by decide, by decide, by decide⟩
  have integral : ∀ limit ∈ start.limits, limit.IsIntegral := by
    rw [table]
    exact Limit.isIntegral_of_standard
  obtain ⟨registry, run, agreement⟩ := entry_points_agree isBegun short distinct ownNames
    [(10, .named (.text "max_xml_name_limit") (.state .environment) (.text "2000"))]
  obtain ⟨row, held, -, offers, isRead, byKey, isInteger⟩ :=
    agreement 7 StandardLimit.maxName.limit (by rw [table]; rfl)
  obtain ⟨value, same, -⟩ := isInteger integral
  rw [same] at isRead byKey
  obtain ⟨names, -, items⟩ := offers 10 .apiProperty (-5)
  have isOwn : Value.text "XMLLIMITS_MAX_XML_NAME_LIMIT" ∈ StandardLimit.maxName.limit.names :=
    List.mem_cons_of_mem _ (List.mem_singleton_self _)
  exact ⟨start, registry, isBegun, table, short, distinct, ownNames, ownKeys, integral, run, row,
    value, held, names _ isOwn, items, isRead, byKey ownKeys⟩

end Registry

end ProtectionLimits
