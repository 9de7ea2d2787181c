import Mathlib.Data.List.Nodup
import ProtectionLimits.Proofs.Registry.Logging

/-!
Contract: the log as the trail of a registry.

Owns that the entries that a registry writes when it begins and during a run of calls are its
trail: replayed over the initial values they lead to the final ones, row by row, and the flags
that are up are those of the limits that an entry says were set behind the gate. Each entry is
about one limit, so what is told of a row is what its own entries tell (`tells_flatMap`). Owns
also what is left of the trail at another level of the log.

Does not own how many entries a call writes; `Proofs.Registry.Logging` does.
-/

set_option autoImplicit false

namespace ProtectionLimits

namespace Registry

/-! ### Rows of a table -/

section Rows

variable {rows : List Row} {position : Nat} {row behind : Row}

/-- The limits of other rows have other keys. -/
theorem exists_other_key (own : HasTextKeys (rows.map Row.limit)) {front rest : List Row}
    (split : rows = front ++ row :: rest) {key : String} (isKey : row.limit.key = .text key) :
    ∀ other ∈ front ++ rest, ∃ text, text ≠ key ∧ other.limit.key = .text text := by
  intro other member
  subst split
  have distinct := own.distinct
  rw [List.map_map, List.map_append, List.map_cons, List.nodup_middle, ← List.map_append,
    List.nodup_cons] at distinct
  have inTable : other.limit ∈ (front ++ row :: rest).map Row.limit := by
    refine List.mem_map_of_mem ?_
    rcases List.mem_append.1 member with inFront | inRest
    · exact List.mem_append_left _ inFront
    · exact List.mem_append_right _ (.tail _ inRest)
  obtain ⟨text, isText⟩ := own.texts other.limit inTable
  refine ⟨text, ?_, isText⟩
  rintro rfl
  exact distinct.1 (List.mem_map.2 ⟨other, member, isText.trans isKey.symm⟩)

/-- Where every row writes about its own limit, what is told of a row is what its own events
tell. -/
theorem tells_flatMap (own : HasTextKeys (rows.map Row.limit)) {events : Row → List Event}
    (names : ∀ other ∈ rows, ∀ event ∈ events other, event.entry.Names other.limit.key)
    (held : rows[position]? = some row)
    (told : Log.Tells row.limit.key row ((events row).map Event.entry) behind) :
    Log.Tells row.limit.key row ((rows.flatMap events).map Event.entry) behind := by
  obtain ⟨key, isKey⟩ := own.texts row.limit
    (List.mem_map_of_mem (List.mem_of_getElem? held))
  obtain ⟨front, rest, split, -⟩ := exists_split held
  have others := exists_other_key own split isKey
  subst split
  have silent {some : List Row} (included : ∀ other ∈ some, other ∈ front ++ rest)
      (inRows : ∀ other ∈ some, other ∈ front ++ row :: rest) (current : Row) :
      Log.Tells row.limit.key current ((some.flatMap events).map Event.entry) current := by
    rw [isKey]
    refine .of_others (fun entry member => ?_) current
    obtain ⟨event, isEvent, rfl⟩ := List.mem_map.1 member
    obtain ⟨other, otherMember, ofOther⟩ := List.mem_flatMap.1 isEvent
    obtain ⟨text, different, isText⟩ := others other (included other otherMember)
    exact ⟨text, different, isText ▸ names other (inRows other otherMember) event ofOther⟩
  rw [List.flatMap_append, List.flatMap_cons, List.map_append, List.map_append]
  exact (silent (by simp +contextual) (by simp +contextual) row).append
    (told.append (silent (by simp +contextual) (by simp +contextual) behind))

end Rows

/-! ### The beginning -/

/-- The events of looking for the setting of a row. -/
def rowEvents (lookup : Lookup) (names : Value) (row : Row) : List Event :=
  match bootstrapRow lookup names row with
  | .ok (_, events) => events
  | .error _ => []

section Beginning

variable {lookup : Lookup} {names : Value}

theorem bootstrapRows_events {rows loaded : List Row}
    (begun : (bootstrapRows lookup names rows).2 = .ok loaded) :
    (bootstrapRows lookup names rows).1 = rows.flatMap (rowEvents lookup names) ∧
      List.Forall₂ (fun row made =>
        bootstrapRow lookup names row = .ok (made, rowEvents lookup names row)) rows loaded := by
  induction rows generalizing loaded with
  | nil =>
      cases begun
      exact ⟨rfl, .nil⟩
  | cons row rest inductionHypothesis =>
      cases first : bootstrapRow lookup names row with
      | error fault =>
          rw [bootstrapRows_cons_of_error first] at begun
          cases begun
      | ok made =>
          have own : rowEvents lookup names row = made.2 := by rw [rowEvents, first]
          rw [bootstrapRows_cons_of_ok first] at begun ⊢
          obtain ⟨more, restBegun, rfl⟩ := map_eq_ok begun
          obtain ⟨events, restMade⟩ := inductionHypothesis restBegun
          refine ⟨?_, .cons (by rw [first, own]) restMade⟩
          rw [List.flatMap_cons, own, events]

/-- What is loaded is told by the events of the beginning. -/
theorem tells_rowEvents {row loaded : Row}
    (begun : bootstrapRow lookup names row = .ok (loaded, rowEvents lookup names row)) :
    Log.Tells row.limit.key row ((rowEvents lookup names row).map Event.entry) loaded := by
  rcases bootstrapRow_cases begun with ⟨rfl, events⟩ | ⟨value, state, name, rfl, events⟩
  · rw [events]
    exact .nil _ _
  · rw [events]
    exact Event.tells_loaded row value state name

/-- The events of the beginning say for everyone that a limit was set. -/
theorem entry_rowEvents_installs (row : Row) :
    ∀ event ∈ rowEvents lookup names row, event.severity = .info ∧
      ∃ value state, event.entry.Installs row.limit.key value state := by
  intro event member
  cases begun : bootstrapRow lookup names row with
  | error fault =>
      rw [rowEvents, begun] at member
      cases member
  | ok made =>
      rw [rowEvents, begun] at member
      obtain ⟨loaded, events⟩ := made
      rcases bootstrapRow_cases begun with ⟨-, rfl⟩ | ⟨value, state, name, -, rfl⟩
      · cases member
      · rw [List.mem_singleton.1 member]
        exact ⟨rfl, value, state, Event.entry_loaded_installs row.limit.key value state name⟩

/-- The entries of the beginning tell what became of the initial rows. -/
theorem tells_bootstrap {source : Exhibit} {secure : Value} {limits : List Limit}
    {registry : Registry} (own : HasTextKeys limits)
    (begun : (bootstrap lookup source names secure limits).2 = .ok registry) {position : Nat}
    {limit : Limit} (held : limits[position]? = some limit) :
    ∃ row, registry.rows[position]? = some row ∧ row.limit = limit ∧
      Log.Tells limit.key (Row.initial secure.isTrue limit)
        ((bootstrap lookup source names secure limits).1.map Event.entry) row := by
  obtain ⟨loaded, rowsBegun, rfl⟩ := map_eq_ok begun
  obtain ⟨events, made⟩ := bootstrapRows_events rowsBegun
  have table : (limits.map (Row.initial secure.isTrue)).map Row.limit = limits := by
    rw [List.map_map]
    exact List.map_id limits
  have initial : (limits.map (Row.initial secure.isTrue))[position]? =
      some (Row.initial secure.isTrue limit) := by
    rw [List.getElem?_map, held]
    rfl
  obtain ⟨inside, isInitial⟩ := List.getElem?_eq_some_iff.1 initial
  have sameLength := made.length_eq
  have madeHere := made.get inside (sameLength ▸ inside)
  rw [List.get_eq_getElem, isInitial] at madeHere
  refine ⟨_, List.getElem?_eq_getElem (sameLength ▸ inside), (bootstrapRow_keeps madeHere).1, ?_⟩
  rw [← table] at own
  rw [bootstrap, events]
  exact tells_flatMap own
    (fun row _ event member => .inl (entry_rowEvents_installs row event member).2) initial
    (tells_rowEvents madeHere)

theorem entries_bootstrap {source : Exhibit} {secure : Value} {limits : List Limit}
    {registry : Registry}
    (begun : (bootstrap lookup source names secure limits).2 = .ok registry) :
    ∀ entry ∈ (bootstrap lookup source names secure limits).1.map Event.entry,
      entry.severity = .info ∧
        ∃ limit ∈ limits, ∃ value state, entry.Installs limit.key value state := by
  obtain ⟨loaded, rowsBegun, -⟩ := map_eq_ok begun
  obtain ⟨events, -⟩ := bootstrapRows_events rowsBegun
  rw [bootstrap, events]
  intro entry member
  obtain ⟨event, isEvent, rfl⟩ := List.mem_map.1 member
  obtain ⟨row, isRow, ofRow⟩ := List.mem_flatMap.1 isEvent
  obtain ⟨limit, inTable, rfl⟩ := List.mem_map.1 isRow
  obtain ⟨isInfo, installs⟩ := entry_rowEvents_installs _ event ofRow
  exact ⟨isInfo, limit, inTable, installs⟩

end Beginning

/-! ### Calls -/

section Calls

variable {registry : Registry} {position : Nat} {row : Row}

theorem tells_everyRow (own : HasTextKeys registry.limits)
    (integral : ∀ limit ∈ registry.limits, limit.IsIntegral)
    (held : registry.rows[position]? = some row) (secure : Value) :
    Log.Tells row.limit.key row
      ((registry.eventsOf (.everyRow secure)).map Event.entry)
      (row.offer .secureProcessing (row.limit.initialValue secure.isTrue)) := by
  have isInteger (other : Row) (member : other ∈ registry.rows) :
      ∃ value, other.limit.initialValue secure.isTrue = .int value :=
    (integral other.limit (List.mem_map_of_mem member)).initialValue secure.isTrue
  have events : registry.eventsOf (.everyRow secure) = registry.rows.flatMap fun other =>
      [other.verdict .secureProcessing (other.limit.initialValue secure.isTrue)] :=
    List.map_eq_flatMap
  rw [events]
  refine tells_flatMap own (fun other member event isEvent => ?_) held ?_
  · obtain ⟨value, isValue⟩ := isInteger other member
    rw [List.mem_singleton.1 isEvent, isValue]
    exact Event.entry_verdict_names other .secureProcessing value
  · obtain ⟨value, isValue⟩ := isInteger row (List.mem_of_getElem? held)
    obtain ⟨key, isKey⟩ := own.texts row.limit (List.mem_map_of_mem (List.mem_of_getElem? held))
    rw [isValue]
    exact Event.tells_verdict isKey .secureProcessing value

theorem tells_row (own : HasTextKeys registry.limits) (held : registry.rows[position]? = some row)
    (place : Nat) (state : State) (value : Int) :
    Log.Tells row.limit.key row
      ((registry.eventsOf (.row place ⟨state, .int value⟩)).map Event.entry)
      (if place = position then row.offer state (.int value) else row) := by
  obtain ⟨key, isKey⟩ := own.texts row.limit (List.mem_map_of_mem (List.mem_of_getElem? held))
  rw [eventsOf, offerAt]
  by_cases same : place = position
  · subst same
    rw [if_pos rfl, held]
    exact Event.tells_verdict isKey state value
  · rw [if_neg same]
    split
    case h_1 other heldOther =>
        obtain ⟨text, isText⟩ :=
          own.texts other.limit (List.mem_map_of_mem (List.mem_of_getElem? heldOther))
        have keyHere : (registry.limits.map Limit.key)[position]? = some row.limit.key := by
          rw [List.getElem?_map, getElem?_limits, held]
          rfl
        have keyThere : (registry.limits.map Limit.key)[place]? = some other.limit.key := by
          rw [List.getElem?_map, getElem?_limits, heldOther]
          rfl
        rw [isKey]
        refine .of_others (fun entry member => ⟨text, ?_, ?_⟩) row
        · rintro rfl
          have inside := (List.getElem?_eq_some_iff.1 keyThere).1
          apply same
          refine (List.getElem?_inj inside own.distinct).1 ?_
          rw [keyThere, keyHere, isText, isKey]
        · rw [List.mem_singleton.1 member, ← isText]
          exact Event.entry_verdict_names other state value
    case h_2 => exact .nil _ _

/-- The entries of a call tell what became of each row. -/
theorem tells_perform (own : HasTextKeys registry.limits)
    (integral : ∀ limit ∈ registry.limits, limit.IsIntegral)
    (held : registry.rows[position]? = some row) {level : Int}
    (detailed : Log.lets level .debug = true) (call : Call Target) :
    ∃ behind, (registry.after call).rows[position]? = some behind ∧ behind.limit = row.limit ∧
      Log.Tells row.limit.key row ((Form.sound registry).perform level call).entries behind := by
  cases decided : call.decision registry.limits registry.exhibit with
  | error fault =>
      rw [form_perform_of_fault decided, after_eq_of_decision, decided]
      exact ⟨row, held, rfl, .nil _ _⟩
  | ok made =>
      obtain ⟨reply, impact⟩ := made
      rw [entries_perform integral decided, Event.visible_map_entry detailed,
        after_eq_of_decision, decided]
      dsimp only
      rw [getElem?_rows_applied, held, Option.map_some]
      refine ⟨_, rfl, (row.isSettled_settle _).limit, ?_⟩
      · obtain ⟨secure, -, rfl⟩ | ⟨place, state, value, rfl, -⟩ | ⟨content, rfl⟩ | rfl :=
          decision_cases decided
        · have limitHere : registry.limits[position]? = some row.limit := by
            rw [getElem?_limits, held]
            rfl
          rw [Impact.writeAt?, limitHere]
          exact tells_everyRow own integral held secure
        · have told := tells_row own held place state value
          rw [Impact.writeAt?]
          by_cases same : place = position
          · rw [if_pos same] at told ⊢
            exact told
          · rw [if_neg same] at told ⊢
            exact told
        · exact .nil _ _
        · exact .nil _ _

end Calls

/-! ### Runs -/

/-- The entries that some calls write at a level of the log, in order. -/
def Form.writtenBy (form : Form) (level : Int) : List (Call Target) → List Log.Entry
  | [] => []
  | call :: rest =>
      (form.perform level call).entries ++ (form.perform level call).form.writtenBy level rest

def callsAt (level : Int) (calls : List (Call Target)) : List (Int × Call Target) :=
  calls.map fun call => (level, call)

section Runs

variable {registry : Registry}

theorem form_perform_of_integral (integral : ∀ limit ∈ registry.limits, limit.IsIntegral)
    (level : Int) (call : Call Target) :
    ((Form.sound registry).perform level call).form = .sound (registry.after call) :=
  form_performSound (fun _ _ => integral) level

theorem isIntegral_after (integral : ∀ limit ∈ registry.limits, limit.IsIntegral)
    (call : Call Target) : ∀ limit ∈ (registry.after call).limits, limit.IsIntegral := by
  rw [limits_after]
  exact integral

theorem afterAll_callsAt (integral : ∀ limit ∈ registry.limits, limit.IsIntegral) (level : Int)
    (calls : List (Call Target)) :
    (Form.sound registry).afterAll (callsAt level calls) = .sound (registry.afterAll calls) := by
  rw [afterAll_sound integral, callsAt, List.map_map]
  exact congrArg (fun calls => Form.sound (registry.afterAll calls)) (List.map_id calls)

/-- The entries of a run tell what became of each row. -/
theorem tells_writtenBy (own : HasTextKeys registry.limits)
    (integral : ∀ limit ∈ registry.limits, limit.IsIntegral) {position : Nat} {row : Row}
    (held : registry.rows[position]? = some row) {level : Int}
    (detailed : Log.lets level .debug = true) (calls : List (Call Target)) :
    ∃ behind, (registry.afterAll calls).rows[position]? = some behind ∧
      behind.limit = row.limit ∧
      Log.Tells row.limit.key row ((Form.sound registry).writtenBy level calls) behind := by
  induction calls generalizing registry row with
  | nil => exact ⟨row, held, rfl, .nil _ _⟩
  | cons call rest inductionHypothesis =>
      obtain ⟨next, heldNext, sameLimit, told⟩ := tells_perform own integral held detailed call
      have stillOwn : HasTextKeys (registry.after call).limits := by
        rw [limits_after]
        exact own
      obtain ⟨behind, heldBehind, stillSame, toldLater⟩ :=
        inductionHypothesis stillOwn (isIntegral_after integral call) heldNext
      refine ⟨behind, heldBehind, stillSame.trans sameLimit, ?_⟩
      rw [sameLimit] at toldLater
      rw [Form.writtenBy, form_perform_of_integral integral]
      exact told.append toldLater

/-- What was written from the beginning on tells how a row came about from the initial one. -/
theorem tells_trail {lookup : Lookup} {source : Exhibit} {names secure : Value}
    (own : HasTextKeys registry.limits) (integral : ∀ limit ∈ registry.limits, limit.IsIntegral)
    (begun : (bootstrap lookup source names secure registry.limits).2 = .ok registry)
    {level : Int} (detailed : Log.lets level .debug = true) {calls : List (Call Target)}
    {position : Nat} {row : Row} (held : (registry.afterAll calls).rows[position]? = some row) :
    Log.Tells row.limit.key (Row.initial secure.isTrue row.limit)
      ((bootstrap lookup source names secure registry.limits).1.map Event.entry ++
        (Form.sound registry).writtenBy level calls) row := by
  have limitHere : registry.limits[position]? = some row.limit := by
    rw [← limits_afterAll registry calls, getElem?_limits, held, Option.map_some]
  obtain ⟨first, heldFirst, sameLimit, toldFirst⟩ := tells_bootstrap own begun limitHere
  obtain ⟨last, heldLast, -, toldLater⟩ := tells_writtenBy own integral heldFirst detailed calls
  obtain rfl := Option.some.inj (held.symm.trans heldLast)
  rw [sameLimit] at toldLater
  exact toldFirst.append toldLater

/-- A run writes at any level what that level lets through. -/
theorem writtenBy_eq_visible (integral : ∀ limit ∈ registry.limits, limit.IsIntegral)
    {level : Int} (detailed : Log.lets level .debug = true) (other : Int)
    (calls : List (Call Target)) :
    (Form.sound registry).writtenBy other calls =
      Log.visible other ((Form.sound registry).writtenBy level calls) := by
  induction calls generalizing registry with
  | nil => rfl
  | cons call rest inductionHypothesis =>
      rw [Form.writtenBy, Form.writtenBy, Log.visible_append,
        entries_perform_eq_visible integral detailed, form_perform_of_integral integral,
        form_perform_of_integral integral, inductionHypothesis (isIntegral_after integral call)]

end Runs

section Told

variable {lookup : Lookup} {source : Exhibit} {names secure : Value} {registry : Registry}
  {level : Int}

/-- The beginning writes at any level what that level lets through of its entries. -/
theorem opening_eq_visible (other : Int) :
    (Event.writeAll other (bootstrap lookup source names secure registry.limits).1).1 =
      Log.visible other
        ((bootstrap lookup source names secure registry.limits).1.map Event.entry) :=
  Event.writeAll_eq_visible other
    (isShown_bootstrapRows lookup names (registry.limits.map (Row.initial secure.isTrue)))

/-- With the gate in the log, the beginning writes all of its entries. -/
theorem opening_eq (detailed : Log.lets level .debug = true) :
    (Event.writeAll level (bootstrap lookup source names secure registry.limits).1).1 =
      (bootstrap lookup source names secure registry.limits).1.map Event.entry := by
  rw [opening_eq_visible, Event.visible_map_entry detailed]

/-- What was written tells how each row came about, so its entries can be replayed to the row and to
nothing else, and the flag is up exactly if one of them says that the limit was set. -/
theorem replays_and_isSet_of_tells {key : String} {initial row : Row} {trail : List Log.Entry}
    (isKey : row.limit.key = .text key) (lowered : initial.isSet = false)
    (told : Log.Tells row.limit.key initial trail row) :
    (∀ pair, Log.Replays row.limit.key (initial.value, initial.state) trail pair ↔
      pair = (row.value, row.state)) ∧
    (row.isSet = true ↔
      ∃ entry ∈ trail, ∃ value state, entry.SaysSet row.limit.key value state) := by
  have isLowered : initial.isSet ≠ true := by rw [lowered]; exact nofun
  refine ⟨fun pair => ⟨fun replays => ?_, ?_⟩, told.isSet.trans (or_iff_right isLowered)⟩
  · have ownReplay := told.replays
    rw [isKey] at replays ownReplay
    exact replays.unique ownReplay
  · rintro rfl
    exact told.replays

/-- The whole trail of a registry tells of each of its rows. -/
theorem trail_determines (own : HasTextKeys registry.limits)
    (integral : ∀ limit ∈ registry.limits, limit.IsIntegral)
    (begun : (bootstrap lookup source names secure registry.limits).2 = .ok registry)
    (detailed : Log.lets level .debug = true) {calls : List (Call Target)} {position : Nat}
    {row : Row} (held : (registry.afterAll calls).rows[position]? = some row) :
    let trail :=
      (Event.writeAll level (bootstrap lookup source names secure registry.limits).1).1 ++
        (Form.sound registry).writtenBy level calls
    (∀ pair, Log.Replays row.limit.key
        (row.limit.initialValue secure.isTrue,
          if secure.isTrue then .secureProcessing else .default) trail pair ↔
      pair = (row.value, row.state)) ∧
    (row.isSet = true ↔
      ∃ entry ∈ trail, ∃ value state, entry.SaysSet row.limit.key value state) := by
  have inTable : row.limit ∈ registry.limits := by
    rw [← limits_afterAll registry calls]
    exact List.mem_map_of_mem (List.mem_of_getElem? held)
  obtain ⟨key, isKey⟩ := own.texts row.limit inTable
  have told := tells_trail own integral begun detailed held
  rw [← opening_eq detailed] at told
  exact replays_and_isSet_of_tells isKey rfl told

/-- Within a run, each call writes about the limits that it was accepted for. -/
theorem isLogged_within (own : HasTextKeys registry.limits)
    (short : registry.limits.length ≤ entityCountInfoIndex)
    (integral : ∀ limit ∈ registry.limits, limit.IsIntegral)
    (detailed : Log.lets level .debug = true) (before : List (Call Target))
    (call : Call Target) :
    ∃ reached, (Form.sound registry).afterAll (callsAt level before) = .sound reached ∧
      reached.IsLogged call ((Form.sound reached).perform level call) := by
  refine ⟨registry.afterAll before, afterAll_callsAt integral level before, ?_⟩
  have same := limits_afterAll registry before
  refine isLogged_perform ?_ ?_ ?_ detailed call
  · rw [same]
    exact own
  · rw [same]
    exact short
  · rw [same]
    exact integral

end Told

/-- A registry that is made without a level of its own writes the events of its beginning. -/
theorem entries_create {creation : Creation} {level : Int} {registry : Registry}
    (unasked : creation.level = .absent)
    (made : (create creation level).result = .ok registry) :
    ∃ limits, creation.table.resolve creation.secure.isTrue = .ok limits ∧
      (bootstrap creation.source.get creation.source.exhibit creation.names creation.secure
        limits).2 = .ok registry ∧
      (create creation level).entries =
        (Event.writeAll level (bootstrap creation.source.get creation.source.exhibit
          creation.names creation.secure limits).1).1 := by
  obtain ⟨limits, table, begun⟩ := bootstrap_of_create made
  refine ⟨limits, table, begun, ?_⟩
  rw [create, unasked, Log.withLevel, build] at made ⊢
  cases refused : creation.refused? with
  | some fault =>
      rw [refused] at made
      cases made
  | none =>
      simp only [table]
      split <;> rfl

/-- Whatever a registry is loaded from and whatever calls are made, with the gate in the log the
entries of its beginning and of the calls lead from the initial values and states to those that
it ends with, for every limit and to nothing else; a flag is up exactly if an entry says that
its limit was set behind the gate; the beginning only says what was loaded; and each call writes
about the limits that it was accepted for (`IsLogged`). At any other level the log is what that
level lets through of this, and the registry is the same. A registry that is made without a level
of its own writes the entries of its beginning. -/
theorem log_leads_to_contents {lookup : Lookup} {source : Exhibit} {names secure : Value}
    {limits : List Limit} {start : Registry} (own : HasTextKeys limits)
    (short : limits.length ≤ entityCountInfoIndex)
    (integral : ∀ limit ∈ limits, limit.IsIntegral)
    (begun : (bootstrap lookup source names secure limits).2 = .ok start)
    {level : Int} (detailed : Log.lets level .debug = true) (calls : List (Call Target)) :
    let opening := (Event.writeAll level (bootstrap lookup source names secure limits).1).1
    let trail := opening ++ (Form.sound start).writtenBy level calls
    ∃ final,
      (Form.sound start).afterAll (callsAt level calls) = .sound final ∧
      final.limits = limits ∧
      (∀ entry ∈ opening, entry.severity = .info ∧
        ∃ limit ∈ limits, ∃ value state, entry.Installs limit.key value state) ∧
      (∀ (position : Nat) (row : Row), final.rows[position]? = some row →
        (∀ pair, Log.Replays row.limit.key
            (row.limit.initialValue secure.isTrue,
              if secure.isTrue then .secureProcessing else .default) trail pair ↔
          pair = (row.value, row.state)) ∧
        (row.isSet = true ↔ ∃ entry ∈ trail, ∃ value state,
          entry.SaysSet row.limit.key value state)) ∧
      (∀ before call after, calls = before ++ call :: after →
        ∃ reached, (Form.sound start).afterAll (callsAt level before) = .sound reached ∧
          reached.IsLogged call ((Form.sound reached).perform level call)) ∧
      (∀ other,
        (Event.writeAll other (bootstrap lookup source names secure limits).1).1 =
          Log.visible other opening ∧
        (Form.sound start).writtenBy other calls =
          Log.visible other ((Form.sound start).writtenBy level calls) ∧
        (Form.sound start).afterAll (callsAt other calls) = .sound final) ∧
      ∀ creation level created, creation.level = .absent →
        (create creation level).result = .ok created →
        ∃ limits, creation.table.resolve creation.secure.isTrue = .ok limits ∧
          (bootstrap creation.source.get creation.source.exhibit creation.names creation.secure
            limits).2 = .ok created ∧
          (create creation level).entries =
            (Event.writeAll level (bootstrap creation.source.get creation.source.exhibit
              creation.names creation.secure limits).1).1 := by
  intro opening trail
  have table : start.limits = limits := limits_of_bootstrap begun
  subst table
  have opened : opening =
      (bootstrap lookup source names secure start.limits).1.map Event.entry := opening_eq detailed
  refine ⟨start.afterAll calls, afterAll_callsAt integral level calls, limits_afterAll start calls,
    ?_, fun _ _ held => trail_determines own integral begun detailed held, ?_, ?_,
    fun _ _ _ unasked made => entries_create unasked made⟩
  · rw [opened]
    exact entries_bootstrap begun
  · rintro before call after rfl
    exact isLogged_within own short integral detailed before call
  · intro other
    refine ⟨?_, writtenBy_eq_visible integral detailed other calls,
      afterAll_callsAt integral other calls⟩
    rw [opened]
    exact opening_eq_visible other

/-- The standard table over an environment with one setting, which a setting from a configuration
file does not replace and one through the API does. -/
theorem log_leads_to_contents_overridden :
    ∃ start final row,
      HasTextKeys Limit.standardTable ∧
      (bootstrap (Source.layered (.process [("XMLLIMITS_MAX_OCCUR_LIMIT", "12")]) []).get
        (.text "source") .absent (.bool false) Limit.standardTable).2 = .ok start ∧
      (Form.sound start).afterAll (callsAt 10
        [.named (.text "max_occur_limit") (.state .configFile) (.text "9"),
          .secureProcessing (.bool true),
          .named (.text "max_occur_limit") (.state .apiProperty) (.int (-5))]) = .sound final ∧
      final.rows[1]? = some row ∧
      (∀ pair, Log.Replays (.text "MaxOccurLimit") (.int 0, .default)
        ((Event.writeAll 10 (bootstrap
            (Source.layered (.process [("XMLLIMITS_MAX_OCCUR_LIMIT", "12")]) []).get
            (.text "source") .absent (.bool false) Limit.standardTable).1).1 ++
          (Form.sound start).writtenBy 10
            [.named (.text "max_occur_limit") (.state .configFile) (.text "9"),
              .secureProcessing (.bool true),
              .named (.text "max_occur_limit") (.state .apiProperty) (.int (-5))]) pair ↔
        pair = (.int 0, .apiProperty)) := by
  have own : HasTextKeys Limit.standardTable := by
    refine ⟨fun limit member => ?_, ?_⟩
    · obtain ⟨standard, -, rfl⟩ := List.mem_map.1 member
      exact ⟨_, rfl⟩
    · simp [Limit.standardTable, StandardLimit.all, StandardLimit.limit, StandardLimit.entry]
  obtain ⟨start, begun⟩ : ∃ start,
      (bootstrap (Source.layered (.process [("XMLLIMITS_MAX_OCCUR_LIMIT", "12")]) []).get
        (.text "source") .absent (.bool false) Limit.standardTable).2 = .ok start := ⟨_, rfl⟩
  obtain ⟨final, run, -, -, rows, -⟩ :=
    @log_leads_to_contents _ _ _ _ _ _ own (by decide) Limit.isIntegral_of_standard begun 10
      (by decide)
      [.named (.text "max_occur_limit") (.state .configFile) (.text "9"),
        .secureProcessing (.bool true),
        .named (.text "max_occur_limit") (.state .apiProperty) (.int (-5))]
  cases begun
  cases run
  exact ⟨_, _, _, own, rfl, rfl, rfl, (rows 1 _ rfl).1⟩

end Registry

end ProtectionLimits
