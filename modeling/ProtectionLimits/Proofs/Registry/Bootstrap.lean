import Mathlib.Data.List.Forall2
import ProtectionLimits.Proofs.Registry.Run
import ProtectionLimits.Proofs.Source
import ProtectionLimits.Registry.Bootstrap

/-!
Contract: what a registry begins with.

Owns what a source has for each limit of a table (`found?`), which limits are refused
for it, and what a row begins with (`IsResolved`). A beginning goes through all limits
in order and ends with the first that is refused; what the source has for a limit
decides its row and no other. The gate has no part in it, so a setting counts
whatever its state.

A source may fail, and what it fails with is then the fault of the beginning. All
that is said here about settings is about sources that answer what they are asked.
-/

set_option autoImplicit false

namespace ProtectionLimits.Registry

/-! ### Whatever the source -/

theorem isShown_loaded (key : Value) (value : Int) (state : State) (name : Value) :
    (Event.loaded key value state name).IsShown :=
  ⟨_, rfl⟩

/-- A row begins as it was or with a loading, which is one event. -/
theorem bootstrapRow_cases {lookup : Lookup} {names : Value} {row loaded : Row}
    {events : List Event} (begun : bootstrapRow lookup names row = .ok (loaded, events)) :
    (loaded = row ∧ events = []) ∨
      ∃ value state name, loaded = { row with value := .int value, state := state } ∧
        events = [.loaded row.limit.key value state name] := by
  simp only [bootstrapRow, bind, Except.bind, pure, Except.pure] at begun
  split at begun
  · cases begun
  · split at begun
    · cases begun
      exact .inl ⟨rfl, rfl⟩
    · split at begun
      · cases begun
      · rename_i run
        cases begun
        simp only [load, bind, Except.bind, pure, Except.pure] at run
        split at run
        · cases run
        · split at run
          · cases run
            exact .inr ⟨_, _, _, rfl, rfl⟩
          · cases run

/-- A row keeps its limit and its flag, and loading it can be written. -/
theorem bootstrapRow_keeps {lookup : Lookup} {names : Value} {row loaded : Row}
    {events : List Event} (begun : bootstrapRow lookup names row = .ok (loaded, events)) :
    loaded.limit = row.limit ∧ loaded.isSet = row.isSet ∧ ∀ event ∈ events, event.IsShown := by
  rcases bootstrapRow_cases begun with ⟨rfl, rfl⟩ | ⟨value, state, name, rfl, rfl⟩
  · exact ⟨rfl, rfl, nofun⟩
  · refine ⟨rfl, rfl, ?_⟩
    intro event member
    rw [List.mem_singleton.1 member]
    exact isShown_loaded _ _ _ _

theorem bootstrapRows_cons_of_error {lookup : Lookup} {names : Value} {row : Row} {fault : Fault}
    (refused : bootstrapRow lookup names row = .error fault) (rest : List Row) :
    bootstrapRows lookup names (row :: rest) = ([], .error fault) := by
  rw [bootstrapRows, refused]

theorem bootstrapRows_cons_of_ok {lookup : Lookup} {names : Value} {row loaded : Row}
    {events : List Event} (begun : bootstrapRow lookup names row = .ok (loaded, events))
    (rest : List Row) :
    bootstrapRows lookup names (row :: rest) =
      (events ++ (bootstrapRows lookup names rest).1,
        (bootstrapRows lookup names rest).2.map (loaded :: ·)) := by
  rw [bootstrapRows, begun]

theorem isShown_bootstrapRows (lookup : Lookup) (names : Value) (rows : List Row) :
    ∀ event ∈ (bootstrapRows lookup names rows).1, event.IsShown := by
  induction rows with
  | nil => exact nofun
  | cons row rest inductionHypothesis =>
      cases begun : bootstrapRow lookup names row with
      | error fault =>
          rw [bootstrapRows_cons_of_error begun]
          exact nofun
      | ok made =>
          rw [bootstrapRows_cons_of_ok begun]
          intro event member
          rcases List.mem_append.1 member with first | later
          · exact (bootstrapRow_keeps begun).2.2 event first
          · exact inductionHypothesis event later

/-- All rows keep their limits and their flags. -/
theorem bootstrapRows_keeps {lookup : Lookup} {names : Value} {rows loaded : List Row}
    (begun : (bootstrapRows lookup names rows).2 = .ok loaded) :
    List.Forall₂ (fun row made => made.limit = row.limit ∧ made.isSet = row.isSet) rows loaded := by
  induction rows generalizing loaded with
  | nil =>
      cases begun
      exact .nil
  | cons row rest inductionHypothesis =>
      cases first : bootstrapRow lookup names row with
      | error fault =>
          rw [bootstrapRows_cons_of_error first] at begun
          cases begun
      | ok made =>
          rw [bootstrapRows_cons_of_ok first] at begun
          obtain ⟨more, restBegun, rfl⟩ := map_eq_ok begun
          have keeps := bootstrapRow_keeps first
          exact .cons ⟨keeps.1, keeps.2.1⟩ (inductionHypothesis restBegun)

/-- A registry begins with all limits of its table, and all flags down. -/
theorem bootstrap_keeps {lookup : Lookup} {source : Exhibit} {names secure : Value}
    {limits : List Limit} {registry : Registry}
    (begun : (bootstrap lookup source names secure limits).2 = .ok registry) :
    List.Forall₂ (fun limit row => row.limit = limit ∧ row.isSet = false) limits registry.rows := by
  obtain ⟨rows, rowsBegun, rfl⟩ := map_eq_ok begun
  exact List.forall₂_map_left_iff.1 (bootstrapRows_keeps rowsBegun)

theorem limits_of_bootstrap {lookup : Lookup} {source : Exhibit} {names secure : Value}
    {limits : List Limit} {registry : Registry}
    (begun : (bootstrap lookup source names secure limits).2 = .ok registry) :
    registry.limits = limits := by
  have agreement := (bootstrap_keeps begun).imp fun limit row kept => kept.1
  rw [Registry.limits]
  symm
  rw [← List.forall₂_eq_eq_eq, List.forall₂_map_right_iff]
  exact agreement.imp fun limit row same => same.symm

theorem isSet_of_bootstrap {lookup : Lookup} {source : Exhibit} {names secure : Value}
    {limits : List Limit} {registry : Registry}
    (begun : (bootstrap lookup source names secure limits).2 = .ok registry) :
    ∀ row ∈ registry.rows, row.isSet = false := by
  intro row member
  obtain ⟨position, inside, rfl⟩ := List.getElem_of_mem member
  have kept := bootstrap_keeps begun
  rw [List.forall₂_iff_get] at kept
  exact (kept.2 position (by rw [kept.1]; exact inside) inside).2

/-- Whether a registry is one that a beginning leaves. -/
def IsBegun (registry : Registry) : Prop :=
  ∃ lookup source names secure limits,
    (bootstrap lookup source names secure limits).2 = .ok registry

theorem IsBegun.isSet {registry : Registry} (begun : registry.IsBegun) :
    ∀ row ∈ registry.rows, row.isSet = false := by
  obtain ⟨lookup, source, names, secure, limits, begun⟩ := begun
  exact isSet_of_bootstrap begun

/-! ### Sources that answer -/

/-- Whether a source gives a fixed answer to a name: nothing, or a setting with a state. -/
def Answers (lookup : Lookup) (answers : Value → Option (Value × State)) (name : Value) : Prop :=
  lookup name = .ok ((answers name).map fun answer => (answer.1, .state answer.2))

/-- Whether a source can be asked for a name on behalf of a property. -/
def IsAsked (names property name : Value) : Prop :=
  name = property ∨ formerName? names property = some name

/-- Whether a source gives fixed answers to all that it is asked for a limit, whose name
can be a key. -/
structure IsServed (lookup : Lookup) (answers : Value → Option (Value × State)) (names : Value)
    (limit : Limit) : Prop where
  keyable : limit.systemProperty.unkeyable? = none
  answering : ∀ name, IsAsked names limit.systemProperty name → Answers lookup answers name

/-- What a source has for a property: the answer to its present name, or else the answer
to its former name. -/
def found? (answers : Value → Option (Value × State)) (names property : Value) :
    Option (Value × State) :=
  match answers property with
  | some answer => some answer
  | none => (formerName? names property).bind answers

def IsRefused (answers : Value → Option (Value × State)) (names : Value) (limit : Limit) : Prop :=
  ∃ setting state, found? answers names limit.systemProperty = some (setting, state) ∧
    Setting.value? setting = none

/-- What the row of a limit begins with: the setting that is found for it, or else its
initial value. -/
structure IsResolved (answers : Value → Option (Value × State)) (names : Value) (secure : Bool)
    (limit : Limit) (row : Row) : Prop where
  sameLimit : row.limit = limit
  isSet : row.isSet = false
  ofFound : ∀ setting state, found? answers names limit.systemProperty = some (setting, state) →
    ∃ value, Setting.parse limit.systemProperty setting = .ok value ∧
      row.value = .int value ∧ row.state = state
  ofMissing : found? answers names limit.systemProperty = none →
    row.value = limit.initialValue secure ∧
      row.state = if secure then .secureProcessing else .default

section Settings

variable {lookup : Lookup} {answers : Value → Option (Value × State)} {names : Value}

theorem findSetting_of_missing {limit : Limit} (mapping : IsFormerNames names)
    (served : IsServed lookup answers names limit)
    (missing : found? answers names limit.systemProperty = none) :
    findSetting lookup names limit.systemProperty = .ok none := by
  have present := served.answering limit.systemProperty (.inl rfl)
  rw [found?] at missing
  split at missing
  · cases missing
  · rename_i absent
    rw [Answers, absent] at present
    simp only [findSetting, bind, Except.bind, pure, Except.pure, present, Option.map_none,
      formerName_eq mapping served.keyable]
    cases former : formerName? names limit.systemProperty with
    | none => rfl
    | some name =>
        have answered := served.answering name (.inr former)
        rw [former, Option.bind_some] at missing
        rw [Answers, missing] at answered
        have notAbsent := ne_absent_of_formerName? former
        cases name with
        | absent => exact absurd rfl notAbsent
        | _ => simp only [Option.getD_some, answered, Option.map_none]

theorem findSetting_of_found {limit : Limit} {setting : Value} {state : State}
    (mapping : IsFormerNames names) (served : IsServed lookup answers names limit)
    (found : found? answers names limit.systemProperty = some (setting, state)) :
    ∃ name, findSetting lookup names limit.systemProperty =
      .ok (some ((setting, .state state), name)) := by
  have present := served.answering limit.systemProperty (.inl rfl)
  rw [found?] at found
  split at found
  · rename_i answer answered
    cases found
    refine ⟨limit.systemProperty, ?_⟩
    rw [Answers, answered] at present
    simp only [findSetting, bind, Except.bind, pure, Except.pure, present, Option.map_some]
  · rename_i absent
    rw [Answers, absent] at present
    obtain ⟨name, former, answered⟩ := Option.bind_eq_some_iff.1 found
    refine ⟨name, ?_⟩
    have formerAnswer := served.answering name (.inr former)
    rw [Answers, answered] at formerAnswer
    simp only [findSetting, bind, Except.bind, pure, Except.pure, present, Option.map_none,
      formerName_eq mapping served.keyable, former, Option.getD_some]
    have notAbsent := ne_absent_of_formerName? former
    cases name with
    | absent => exact absurd rfl notAbsent
    | _ => simp only [formerAnswer, Option.map_some]

/-- A limit that is not refused begins with what was found for it. -/
theorem bootstrapRow_of_not_refused {limit : Limit} (mapping : IsFormerNames names)
    (served : IsServed lookup answers names limit) (secure : Bool)
    (accepted : ¬ IsRefused answers names limit) :
    ∃ row events, bootstrapRow lookup names (Row.initial secure limit) = .ok (row, events) ∧
      IsResolved answers names secure limit row := by
  cases found : found? answers names limit.systemProperty with
  | none =>
      refine ⟨Row.initial secure limit, [], ?_, rfl, rfl, ?_, fun _ => ⟨rfl, rfl⟩⟩
      · simp only [bootstrapRow, bind, Except.bind, pure, Except.pure, Row.initial,
          findSetting_of_missing mapping served found]
      · intro setting state otherFound
        rw [found] at otherFound
        cases otherFound
  | some answer =>
      obtain ⟨setting, state⟩ := answer
      obtain ⟨name, finding⟩ := findSetting_of_found mapping served found
      cases given : Setting.value? setting with
      | none => exact absurd ⟨setting, state, found, given⟩ accepted
      | some value =>
          have parsed := Setting.parse_of_value? limit.systemProperty given
          refine ⟨⟨limit, .int value, state, false⟩, [.loaded limit.key value state name],
            ?_, rfl, rfl, ?_, ?_⟩
          · simp only [bootstrapRow, bind, Except.bind, pure, Except.pure, Row.initial, finding,
              load, parsed]
          · intro otherSetting otherState otherFound
            rw [found] at otherFound
            cases otherFound
            exact ⟨value, parsed, rfl, rfl⟩
          · intro missing
            rw [found] at missing
            cases missing

/-- A limit that is refused ends the beginning with the fault of its setting. -/
theorem bootstrapRow_of_refused {limit : Limit} (mapping : IsFormerNames names)
    (served : IsServed lookup answers names limit) (secure : Bool)
    (refused : IsRefused answers names limit) :
    ∃ setting state fault,
      found? answers names limit.systemProperty = some (setting, state) ∧
      Setting.parse limit.systemProperty setting = .error fault ∧
      bootstrapRow lookup names (Row.initial secure limit) = .error fault := by
  obtain ⟨setting, state, found, notGiven⟩ := refused
  obtain ⟨name, finding⟩ := findSetting_of_found mapping served found
  obtain ⟨fault, parsed⟩ := Setting.exists_parse_error limit.systemProperty notGiven
  refine ⟨setting, state, fault, found, parsed, ?_⟩
  simp only [bootstrapRow, bind, Except.bind, Row.initial, finding, load, parsed]

/-- Where no limit is refused, each row begins with what was found for its limit. -/
theorem bootstrapRows_of_not_refused {limits : List Limit} (mapping : IsFormerNames names)
    (served : ∀ limit ∈ limits, IsServed lookup answers names limit) (secure : Bool)
    (accepted : ∀ limit ∈ limits, ¬ IsRefused answers names limit) :
    ∃ rows, (bootstrapRows lookup names (limits.map (Row.initial secure))).2 = .ok rows ∧
      List.Forall₂ (IsResolved answers names secure) limits rows := by
  induction limits with
  | nil => exact ⟨[], rfl, .nil⟩
  | cons limit rest inductionHypothesis =>
      rw [List.forall_mem_cons] at served accepted
      obtain ⟨row, events, begun, resolved⟩ :=
        bootstrapRow_of_not_refused mapping served.1 secure accepted.1
      obtain ⟨rows, restBegun, restResolved⟩ := inductionHypothesis served.2 accepted.2
      refine ⟨row :: rows, ?_, .cons resolved restResolved⟩
      rw [List.map_cons, bootstrapRows_cons_of_ok begun, restBegun]
      rfl

/-- Where some limit is refused, the first of them ends the beginning. -/
theorem bootstrapRows_of_refused {limits : List Limit} (mapping : IsFormerNames names)
    (served : ∀ limit ∈ limits, IsServed lookup answers names limit) (secure : Bool)
    (refused : ∃ limit ∈ limits, IsRefused answers names limit) :
    ∃ front limit rest setting state fault,
      limits = front ++ limit :: rest ∧
      (∀ earlier ∈ front, ¬ IsRefused answers names earlier) ∧
      found? answers names limit.systemProperty = some (setting, state) ∧
      Setting.parse limit.systemProperty setting = .error fault ∧
      (bootstrapRows lookup names (limits.map (Row.initial secure))).2 = .error fault := by
  induction limits with
  | nil =>
      obtain ⟨limit, member, -⟩ := refused
      cases member
  | cons limit rest inductionHypothesis =>
      rw [List.forall_mem_cons] at served
      by_cases first : IsRefused answers names limit
      · obtain ⟨setting, state, fault, found, parsed, failed⟩ :=
          bootstrapRow_of_refused mapping served.1 secure first
        refine ⟨[], limit, rest, setting, state, fault, rfl, nofun, found, parsed, ?_⟩
        rw [List.map_cons, bootstrapRows_cons_of_error failed]
      · have later : ∃ limit ∈ rest, IsRefused answers names limit := by
          obtain ⟨other, member, otherRefused⟩ := refused
          rcases List.mem_cons.1 member with rfl | inRest
          · exact absurd otherRefused first
          · exact ⟨other, inRest, otherRefused⟩
        obtain ⟨front, refusedLimit, behind, setting, state, fault, split, accepted, found, parsed,
          failed⟩ := inductionHypothesis served.2 later
        obtain ⟨row, events, begun, -⟩ :=
          bootstrapRow_of_not_refused mapping served.1 secure first
        refine ⟨limit :: front, refusedLimit, behind, setting, state, fault, ?_, ?_, found, parsed,
          ?_⟩
        · rw [split, List.cons_append]
        · rw [List.forall_mem_cons]
          exact ⟨first, accepted⟩
        · rw [List.map_cons, bootstrapRows_cons_of_ok begun, failed]
          rfl

/-- A registry begins where no limit is refused. -/
theorem bootstrap_of_not_refused {limits : List Limit} (source : Exhibit) (secure : Value)
    (mapping : IsFormerNames names)
    (served : ∀ limit ∈ limits, IsServed lookup answers names limit)
    (accepted : ¬ ∃ limit ∈ limits, IsRefused answers names limit) :
    ∃ registry, (bootstrap lookup source names secure limits).2 = .ok registry ∧
      List.Forall₂ (IsResolved answers names secure.isTrue) limits registry.rows ∧
      registry.entityCounts = .text "" ∧ registry.secure = secure := by
  have noneRefused : ∀ limit ∈ limits, ¬ IsRefused answers names limit :=
    fun limit member refused => accepted ⟨limit, member, refused⟩
  obtain ⟨rows, begun, resolved⟩ :=
    bootstrapRows_of_not_refused mapping served secure.isTrue noneRefused
  refine ⟨⟨rows, .text "", secure, source, names⟩, ?_, resolved, rfl, rfl⟩
  simp only [bootstrap, begun, Except.map]

/-- A registry does not begin where some limit is refused. -/
theorem bootstrap_of_refused {limits : List Limit} (source : Exhibit) (secure : Value)
    (mapping : IsFormerNames names)
    (served : ∀ limit ∈ limits, IsServed lookup answers names limit)
    (refused : ∃ limit ∈ limits, IsRefused answers names limit) :
    ∃ front limit rest setting state fault,
      limits = front ++ limit :: rest ∧
      (∀ earlier ∈ front, ¬ IsRefused answers names earlier) ∧
      found? answers names limit.systemProperty = some (setting, state) ∧
      Setting.parse limit.systemProperty setting = .error fault ∧
      (bootstrap lookup source names secure limits).2 = .error fault := by
  obtain ⟨front, limit, rest, setting, state, fault, split, accepted, found, parsed, failed⟩ :=
    bootstrapRows_of_refused mapping served secure.isTrue refused
  refine ⟨front, limit, rest, setting, state, fault, split, accepted, found, parsed, ?_⟩
  simp only [bootstrap, failed, Except.map]

end Settings

/-! ### The sources and the registries that callers ask for -/

/-- A layered source serves limits all whose names are texts. -/
theorem isServed_layered (environment : Environment) (settings : List (Value × Value))
    {names : Value} {limit : Limit}
    (texts : ∀ name, IsAsked names limit.systemProperty name → ∃ content, name = .text content) :
    IsServed (Source.layered environment settings).get
      (Source.layeredAnswers environment settings) names limit := by
  constructor
  · obtain ⟨property, isText⟩ := texts limit.systemProperty (.inl rfl)
    rw [isText]
    rfl
  · intro name asked
    obtain ⟨content, rfl⟩ := texts name asked
    exact Source.get_layered_text environment settings content

/-- With the standard former names, all names of a limit are texts if its present one is. -/
theorem texts_of_standard {limit : Limit}
    (isText : ∃ property, limit.systemProperty = .text property) :
    ∀ name, IsAsked .absent limit.systemProperty name → ∃ content, name = .text content := by
  obtain ⟨property, isText⟩ := isText
  rintro name (rfl | former)
  · exact ⟨property, isText⟩
  · rw [isText] at former
    obtain ⟨content, -, rfl⟩ := Option.map_eq_some_iff.1 former
    exact ⟨content, rfl⟩

/-- A level that a caller may ask for. -/
def IsLevelRequest (level : Value) : Prop :=
  level = .absent ∨ ∃ chosen, Log.levelOf level = .ok chosen

theorem result_withLevel {Result : Type} {requested : Value} (valid : IsLevelRequest requested)
    (level : Int) {call : Int → Log.Run Result} {result : Except Fault Result}
    (always : ∀ level, (call level).result = result) :
    (Log.withLevel requested level call).result = result := by
  rcases valid with rfl | ⟨chosen, isLevel⟩
  · exact always level
  · unfold Log.withLevel
    split
    · exact always level
    · rw [isLevel]
      exact always chosen

/-- A request that is no level fails before the call, whatever the call is. -/
theorem exists_fault_of_withLevel {requested : Value} (invalid : ¬ IsLevelRequest requested)
    (level : Int) :
    ∃ fault, ∀ {Result : Type} (call : Int → Log.Run Result),
      (Log.withLevel requested level call).result = .error fault := by
  cases asked : Log.levelOf requested with
  | ok chosen => exact absurd (.inr ⟨chosen, asked⟩) invalid
  | error fault =>
      refine ⟨fault, ?_⟩
      intro Result call
      unfold Log.withLevel
      split
      · exact absurd (.inl rfl) invalid
      · rw [asked]

theorem exists_result_of_withLevel {Result : Type} {requested : Value} {level : Int}
    {call : Int → Log.Run Result} {result : Result}
    (finished : (Log.withLevel requested level call).result = .ok result) :
    ∃ inner, (call inner).result = .ok result := by
  unfold Log.withLevel at finished
  split at finished
  · exact ⟨level, finished⟩
  · split at finished
    · cases finished
    · rename_i chosen _
      exact ⟨chosen, finished⟩

/-- A registry that was made has begun over the table that was passed. -/
theorem bootstrap_of_create {creation : Creation} {level : Int} {registry : Registry}
    (made : (create creation level).result = .ok registry) :
    ∃ limits, creation.table.resolve creation.secure.isTrue = .ok limits ∧
      (bootstrap creation.source.get creation.source.exhibit creation.names creation.secure
        limits).2 = .ok registry := by
  obtain ⟨inner, built⟩ := exists_result_of_withLevel made
  rw [build] at built
  split at built
  · cases built
  · split at built
    · cases built
    · rename_i limits table
      dsimp only at built
      split at built
      · exact ⟨limits, table, built⟩
      · cases built

theorem isBegun_of_create {creation : Creation} {level : Int} {registry : Registry}
    (made : (create creation level).result = .ok registry) : registry.IsBegun := by
  obtain ⟨limits, -, begun⟩ := bootstrap_of_create made
  exact ⟨creation.source.get, creation.source.exhibit, creation.names, creation.secure, limits,
    begun⟩

/-- Making a registry is beginning it: neither the level of the log nor what is written
there decides anything. -/
theorem result_create {creation : Creation} {limits : List Limit}
    (noKeywords : creation.keywords = []) (valid : IsLevelRequest creation.level)
    (table : creation.table.resolve creation.secure.isTrue = .ok limits) (level : Int) :
    (create creation level).result =
      (bootstrap creation.source.get creation.source.exhibit creation.names creation.secure
        limits).2 := by
  apply result_withLevel valid
  intro level
  have accepted : creation.refused? = none := by rw [Creation.refused?, noKeywords]; rfl
  have complete := Event.writeAll_of_isShown level (isShown_bootstrapRows creation.source.get
    creation.names (limits.map (Row.initial creation.secure.isTrue)))
  simp only [build, accepted, table, bootstrap]
  cases written : Event.writeAll level (bootstrapRows creation.source.get creation.names
      (limits.map (Row.initial creation.secure.isTrue))).1 with
  | mk entries stopped =>
      rw [written] at complete
      cases complete
      rfl

/-- A registry begins with what its source has for each limit, or not at all. It fails
exactly if a setting is refused, with the fault of the first limit in the table that is
refused, which names the present property whatever name the setting was found under.
Otherwise each row holds the setting that was found, whatever its state, or the initial
value, with the flag down. Layered sources are such sources, and making a registry is
beginning it. -/
theorem bootstrap_resolution {lookup : Lookup} {answers : Value → Option (Value × State)}
    {names : Value} {limits : List Limit} (source : Exhibit) (secure : Value)
    (mapping : IsFormerNames names)
    (served : ∀ limit ∈ limits, IsServed lookup answers names limit) :
    ((∃ fault, (bootstrap lookup source names secure limits).2 = .error fault) ↔
        ∃ limit ∈ limits, IsRefused answers names limit) ∧
      (∀ fault, (bootstrap lookup source names secure limits).2 = .error fault →
        ∃ front limit rest setting state,
          limits = front ++ limit :: rest ∧
          (∀ earlier ∈ front, ¬ IsRefused answers names earlier) ∧
          found? answers names limit.systemProperty = some (setting, state) ∧
          Setting.parse limit.systemProperty setting = .error fault ∧
          (fault.errorClass = .limitsNumber →
            fault.number? = some (limit.systemProperty, setting))) ∧
      (∀ registry, (bootstrap lookup source names secure limits).2 = .ok registry →
        List.Forall₂ (IsResolved answers names secure.isTrue) limits registry.rows ∧
        registry.entityCounts = .text "" ∧ registry.secure = secure) ∧
      (∀ environment settings,
        (∀ limit ∈ limits, ∀ name, IsAsked names limit.systemProperty name →
          ∃ content, name = .text content) →
        ∀ limit ∈ limits, IsServed (Source.layered environment settings).get
          (Source.layeredAnswers environment settings) names limit) ∧
      (∀ (creation : Creation) (level : Int), creation.keywords = [] →
        IsLevelRequest creation.level →
        creation.table.resolve creation.secure.isTrue = .ok limits →
        (create creation level).result =
          (bootstrap creation.source.get creation.source.exhibit creation.names
            creation.secure limits).2) := by
  refine ⟨?_, ?_, ?_, ?_, ?_⟩
  · constructor
    · rintro ⟨fault, failed⟩
      by_contra accepted
      obtain ⟨registry, begun, -⟩ :=
        bootstrap_of_not_refused source secure mapping served accepted
      rw [begun] at failed
      cases failed
    · intro refused
      obtain ⟨front, limit, rest, setting, state, fault, -, -, -, -, failed⟩ :=
        bootstrap_of_refused source secure mapping served refused
      exact ⟨fault, failed⟩
  · intro fault failed
    by_cases refused : ∃ limit ∈ limits, IsRefused answers names limit
    · obtain ⟨front, limit, rest, setting, state, first, split, accepted, found, parsed,
        firstFailed⟩ := bootstrap_of_refused source secure mapping served refused
      rw [firstFailed] at failed
      cases failed
      exact ⟨front, limit, rest, setting, state, split, accepted, found, parsed,
        Setting.number?_of_parse_error parsed⟩
    · obtain ⟨registry, begun, -⟩ :=
        bootstrap_of_not_refused source secure mapping served refused
      rw [begun] at failed
      cases failed
  · intro registry begun
    by_cases refused : ∃ limit ∈ limits, IsRefused answers names limit
    · obtain ⟨front, limit, rest, setting, state, fault, -, -, -, -, failed⟩ :=
        bootstrap_of_refused source secure mapping served refused
      rw [failed] at begun
      cases begun
    · obtain ⟨other, otherBegun, resolved⟩ :=
        bootstrap_of_not_refused source secure mapping served refused
      rw [otherBegun] at begun
      cases begun
      exact resolved
  · intro environment settings texts limit member
    exact isServed_layered environment settings (texts limit member)
  · intro creation level noKeywords valid table
    exact result_create noKeywords valid table level

/-- The standard table over a process whose only variable is the former name of the first
limit, and which holds no numeral: the beginning fails. -/
theorem bootstrap_resolution_malformed_former :
    IsFormerNames .absent ∧
      (∀ limit ∈ Limit.standardTable,
        IsServed (Source.layered (.process [("ENTITY_EXPANSION_LIMIT", "many")]) []).get
          (Source.layeredAnswers (.process [("ENTITY_EXPANSION_LIMIT", "many")]) []) .absent
          limit) ∧
      ∃ fault,
        (bootstrap (Source.layered (.process [("ENTITY_EXPANSION_LIMIT", "many")]) []).get
          (.text "source") .absent (.bool true) Limit.standardTable).2 = .error fault := by
  have served : ∀ limit ∈ Limit.standardTable,
      IsServed (Source.layered (.process [("ENTITY_EXPANSION_LIMIT", "many")]) []).get
        (Source.layeredAnswers (.process [("ENTITY_EXPANSION_LIMIT", "many")]) []) .absent
        limit := by
    intro limit member
    obtain ⟨standard, -, rfl⟩ := List.mem_map.1 member
    exact isServed_layered _ _ (texts_of_standard ⟨standard.entry.systemProperty, rfl⟩)
  have mapping : IsFormerNames .absent := .inl rfl
  have refused : IsRefused
      (Source.layeredAnswers (.process [("ENTITY_EXPANSION_LIMIT", "many")]) []) .absent
      StandardLimit.entityExpansion.limit :=
    ⟨.text "many", .environment, by rfl, by rfl⟩
  refine ⟨mapping, served, ?_⟩
  exact (bootstrap_resolution (.text "source") (.bool true) mapping served).1.2
    ⟨StandardLimit.entityExpansion.limit, List.mem_map_of_mem (List.mem_cons_self ..), refused⟩

end ProtectionLimits.Registry
