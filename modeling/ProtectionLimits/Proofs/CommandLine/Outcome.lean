import ProtectionLimits.Proofs.CommandLine.Columns
import ProtectionLimits.Proofs.Fault.Untranslated
import ProtectionLimits.Proofs.Registry.Making
import ProtectionLimits.Proofs.Settings

/-!
Contract: how the listing program ends.

Owns what arguments ask for that are switches of a listing, the setting that an environment has
for a standard limit (`setting?`), and how the program ends over it. It fails exactly where the
beginning of a registry does, and then says which setting was refused for which limit; otherwise
it lists the rows that the registry begins with. The default settings have no part in it: the
switches decide all that settings hold.

Does not own the entries of the log, which stand before anything else on the error stream.
-/

set_option autoImplicit false

namespace ProtectionLimits.CommandLine

/-! ### Arguments -/

/-- The listing that switches ask for. -/
def listingOf (arguments : List String) : Listing :=
  ⟨arguments.count "-v", arguments.contains "--secure"⟩

theorem exists_interpretAll {arguments : List String}
    (switches : ∀ argument ∈ arguments, argument = "-v" ∨ argument = "--secure") :
    ∃ interpreted, interpretAll (arguments.map String.toList) = .ok interpreted ∧
      ∀ listing : Listing, follow listing [] interpreted =
        .ok (.listing ⟨listing.verbosity + arguments.count "-v",
          listing.secure || arguments.contains "--secure"⟩) := by
  induction arguments with
  | nil => exact ⟨[], rfl, fun listing => by simp [follow]⟩
  | cons argument rest inductionHypothesis =>
      rw [List.forall_mem_cons] at switches
      obtain ⟨interpreted, isInterpreted, follows⟩ := inductionHypothesis switches.2
      rcases switches.1 with rfl | rfl
      · refine ⟨.switch ⟨"-v", .verbosity, true⟩ none :: interpreted, ?_, ?_⟩
        · have first : interpret "-v".toList = .ok (.switch ⟨"-v", .verbosity, true⟩ none) := rfl
          have isSwitch : "-v".toList ≠ separator := by decide
          simp only [List.map_cons, interpretAll, if_neg isSwitch, first, isInterpreted]
          rfl
        · intro listing
          have counted : ("-v" :: rest).count "-v" = rest.count "-v" + 1 := List.count_cons_self
          have unchanged : ("-v" :: rest).contains "--secure" = rest.contains "--secure" := rfl
          rw [counted, unchanged, ← Nat.add_assoc, Nat.add_right_comm]
          exact follows (listing.apply .verbosity)
      · refine ⟨.switch ⟨"--secure", .secure, false⟩ none :: interpreted, ?_, ?_⟩
        · have first : interpret "--secure".toList =
              .ok (.switch ⟨"--secure", .secure, false⟩ none) := rfl
          have isSwitch : "--secure".toList ≠ separator := by decide
          simp only [List.map_cons, interpretAll, if_neg isSwitch, first, isInterpreted]
          rfl
        · intro listing
          have counted : ("--secure" :: rest).count "-v" = rest.count "-v" :=
            List.count_cons_of_ne (by decide)
          have found : ("--secure" :: rest).contains "--secure" = true := rfl
          rw [counted, found, Bool.or_true]
          exact follows (listing.apply .secure)

/-- Switches ask for a listing, in whatever order they stand. -/
theorem request_of_switches {arguments : List String}
    (switches : ∀ argument ∈ arguments, argument = "-v" ∨ argument = "--secure") :
    request arguments = .ok (.listing (listingOf arguments)) := by
  obtain ⟨interpreted, isInterpreted, follows⟩ := exists_interpretAll switches
  rw [request, isInterpreted]
  change follow ⟨0, false⟩ [] interpreted = _
  rw [follows, Nat.zero_add, Bool.false_or, listingOf]

/-! ### Settings -/

/-- Intact default settings have no part in the settings of a listing. -/
theorem listingSettings_eq_ok {settings : Settings} (intact : settings.IsIntact)
    (listing : Listing) :
    ∃ object, listingSettings settings listing = .ok object ∧
      Settings.secure object = .bool listing.secure ∧
      Settings.level object = .int (levelForCount listing.verbosity) := by
  obtain ⟨-, isSettings, isIntact⟩ := intact.defaultObject
  generalize isBase : settings.defaultObject = base at isSettings isIntact
  let given : List (String × Value) := [("secure_processing", .bool listing.secure),
    ("loglevel", .int (levelForCount listing.verbosity))]
  let object : OptionObject := ⟨.settings, Kept.ofNames
    [("_secure_processing", .bool listing.secure),
      ("_loglevel", .int (levelForCount listing.verbosity))]⟩
  have noneKept : base.values.filter (fun entry => (given.lookup entry.1).isNone) = [] := by
    rw [OptionObject.values, isSettings]
    rfl
  have made : base.derive given = .ok object := by
    have knows : base.stored? OptionObject.optionsPart = none := isIntact.knowsOptions
    simp only [OptionObject.derive, knows, noneKept, isSettings]
    rfl
  refine ⟨object, ?_, rfl, rfl⟩
  have unnamed : (given.lookup Settings.classArgument).isSome = false := rfl
  change settings.derived .defaults given = .ok object
  simp only [Settings.derived, unnamed, Bool.false_eq_true, if_false, Settings.base, isBase]
  exact made

/-! ### Settings of an environment -/

/-- The setting that an environment has for a standard limit: the first that is not empty, of the
variable that its property names and the one of the former name. -/
def setting? (environment : List (String × String)) (standard : StandardLimit) : Option String :=
  let nonEmpty (name : String) : Option String :=
    (environment.lookup name).filter fun setting => setting != ""
  (nonEmpty standard.entry.systemProperty).or
    ((formerNames.lookup standard.entry.systemProperty).bind nonEmpty)

def IsRefused (environment : List (String × String)) (standard : StandardLimit) : Prop :=
  ∃ setting fault, setting? environment standard = some setting ∧
    Setting.parse (.text standard.entry.systemProperty) (.text setting) = .error fault

section Environment

variable (environment : List (String × String))

theorem layeredAnswers_process (name : String) :
    Source.layeredAnswers (.process environment) [] (.text name) =
      ((environment.lookup name).filter fun setting => setting != "").map fun setting =>
        (.text setting, .environment) := by
  simp only [Source.layeredAnswers, Source.firstPresent?, Source.candidates, Environment.value?,
    List.findSome?_cons, List.findSome?_nil, Source.present?, Value.lookup?]
  cases environment.lookup name with
  | none => rfl
  | some setting => cases isEmpty : setting != "" <;> simp [Option.filter, Value.isTrue, isEmpty]

/-- What the environment answers for a standard limit is its setting there. -/
theorem found?_standard (standard : StandardLimit) :
    Registry.found? (Source.layeredAnswers (.process environment) []) .absent
        standard.limit.systemProperty =
      (setting? environment standard).map fun setting => (.text setting, .environment) := by
  have property : standard.limit.systemProperty = .text standard.entry.systemProperty := rfl
  rw [property, Registry.found?, layeredAnswers_process, setting?]
  dsimp only
  cases (environment.lookup standard.entry.systemProperty).filter fun setting => setting != "" with
  | some setting => rfl
  | none =>
      simp only [Option.map_none, Option.none_or, formerName?]
      cases formerNames.lookup standard.entry.systemProperty with
      | none => rfl
      | some former => exact layeredAnswers_process environment former

theorem isRefused_iff (standard : StandardLimit) :
    Registry.IsRefused (Source.layeredAnswers (.process environment) []) .absent standard.limit ↔
      IsRefused environment standard := by
  constructor
  · rintro ⟨value, state, found, refused⟩
    rw [found?_standard] at found
    obtain ⟨setting, isSetting, same⟩ := Option.map_eq_some_iff.1 found
    cases same
    obtain ⟨fault, failed⟩ :=
      Setting.exists_parse_error (.text standard.entry.systemProperty) refused
    exact ⟨setting, fault, isSetting, failed⟩
  · rintro ⟨setting, fault, isSetting, failed⟩
    refine ⟨.text setting, .environment, ?_, ?_⟩
    · rw [found?_standard, isSetting]
      rfl
    · rw [← Setting.toOption_parse (.text standard.entry.systemProperty), failed]
      rfl

end Environment

/-! ### Failures -/

/-- The message of a setting that is refused for a property. -/
def refusalText (setting property reason : String) : String :=
  "invalid setting " ++ Text.quoted setting ++ " for property " ++ Text.quoted property ++ ": " ++
    reason

/-- A setting is refused with a message that quotes it and its property. -/
theorem report_of_refused {setting property : String} {fault : Fault}
    (refused : Setting.parse (.text property) (.text setting) = .error fault) :
    ∃ reason ∈ ["not an integer", "out of range"],
      fault.report .identity =
        ⟨.limitsNumber, refusalText setting property reason,
          some (.text property, .text setting)⟩ := by
  rcases Setting.parse_text_error refused with rfl | rfl
  · exact ⟨"not an integer", .head _, Fault.report_settingNotInteger setting (.text property)⟩
  · exact ⟨"out of range", .tail _ (.head _),
      Fault.report_settingOutOfRange setting (.text property)⟩

/-- There is no line break in the message of a refused setting. -/
theorem lineBreak_not_mem_refusalText (setting : String) (standard : StandardLimit)
    {reason : String} (isReason : reason ∈ ["not an integer", "out of range"]) :
    '\n' ∉ (refusalText setting standard.entry.systemProperty reason).toList := by
  have notInReason : '\n' ∉ reason.toList := by
    simp only [List.mem_cons, List.not_mem_nil, or_false] at isReason
    rcases isReason with rfl | rfl <;> simp
  have quoted := Text.lineBreak_not_mem_quoted
  have notInLead : '\n' ∉ "invalid setting ".toList := by simp
  have notInMiddle : '\n' ∉ " for property ".toList := by simp
  have notInColon : '\n' ∉ ": ".toList := by simp
  have upToSetting := Text.lineBreak_not_mem_append notInLead (quoted setting)
  have upToProperty := Text.lineBreak_not_mem_append
    (Text.lineBreak_not_mem_append upToSetting notInMiddle) (quoted standard.entry.systemProperty)
  exact Text.lineBreak_not_mem_append (Text.lineBreak_not_mem_append upToProperty notInColon)
    notInReason

/-! ### The listing -/

/-- Whether a limit is listed with a value and a label: with its setting in the environment, or
with the value that it begins with. -/
def IsListed (environment : List (String × String)) (secure : Bool) (standard : StandardLimit)
    (value : Int) (label : String) : Prop :=
  match setting? environment standard with
  | some setting =>
      Setting.parse (.text standard.entry.systemProperty) (.text setting) = .ok value ∧
        label = State.environment.label
  | none =>
      value = (if secure then standard.entry.secureValue else standard.entry.defaultValue) ∧
        label = (if secure then State.secureProcessing else State.default).label

/-- What a row holds that was resolved for a standard limit. -/
theorem isListed_of_isResolved {environment : List (String × String)} {secure : Bool}
    {standard : StandardLimit} {row : Row}
    (resolved : Registry.IsResolved (Source.layeredAnswers (.process environment) []) .absent secure
      standard.limit row) :
    ∃ value, row.value = .int value ∧ 0 ≤ value ∧ value ≤ Setting.greatest ∧
      IsListed environment secure standard value row.state.label := by
  have found := found?_standard environment standard
  unfold IsListed
  cases isSetting : setting? environment standard with
  | some setting =>
      rw [isSetting] at found
      obtain ⟨value, parsed, isValue, isState⟩ := resolved.ofFound _ _ found
      exact ⟨value, isValue, Setting.parse_nonneg parsed, Setting.parseText_le_greatest parsed,
        parsed, by rw [isState]⟩
  | none =>
      rw [isSetting] at found
      obtain ⟨isValue, isState⟩ := resolved.ofMissing found
      have bounds : 0 ≤ standard.entry.secureValue ∧ 0 ≤ standard.entry.defaultValue ∧
          standard.entry.secureValue ≤ Setting.greatest ∧
          standard.entry.defaultValue ≤ Setting.greatest := by
        cases standard <;> decide
      cases secure with
      | true => exact ⟨_, isValue, bounds.1, bounds.2.2.1, rfl, by rw [isState]⟩
      | false => exact ⟨_, isValue, bounds.2.1, bounds.2.2.2, rfl, by rw [isState]⟩

/-- What the program lists of a limit: one line with its key, its value up to a column, and where
the value is from. -/
def IsListedIn (environment : List (String × String)) (secure : Bool) (column : Nat)
    (standard : StandardLimit) (line : String) : Prop :=
  ∃ value label, IsListed environment secure standard value label ∧
    IsLine column standard.entry.key value label line ∧ '\n' ∉ line.toList

/-- A row that was resolved for a standard limit has its line. -/
theorem isListedIn_rowLine {environment : List (String × String)} {secure : Bool}
    {standard : StandardLimit} {row : Row}
    (resolved : Registry.IsResolved (Source.layeredAnswers (.process environment) []) .absent secure
      standard.limit row) :
    IsListedIn environment secure (standardWidth + 2 + valueWidth) standard
      (rowLine standardWidth row) := by
  obtain ⟨value, isValue, nonnegative, bounded, listed⟩ := isListed_of_isResolved resolved
  have isKey : row.limit.key = .text standard.entry.key := by
    rw [resolved.sameLimit]
    rfl
  have isLine := isLine_rowLine isKey isValue (length_key_le standard)
    (Decimal.length_integer_le nonnegative bounded)
  refine ⟨value, row.state.label, listed, isLine, isLine.lineBreak_not_mem ?_ ?_⟩
  · cases standard <;> decide +kernel
  · cases row.state <;> decide +kernel

/-! ### The end of the program -/

theorem isServed_standard (environment : List (String × String)) :
    ∀ limit ∈ Limit.standardTable,
      Registry.IsServed (Source.layered (.process environment) []).get
        (Source.layeredAnswers (.process environment) []) .absent limit := by
  intro limit member
  obtain ⟨standard, -, rfl⟩ := List.mem_map.1 member
  exact Registry.isServed_layered _ _
    (Registry.texts_of_standard ⟨standard.entry.systemProperty, rfl⟩)

/-- The registry of a listing is what begins over the environment. -/
theorem result_listingRegistry {object : OptionObject} {secure : Bool} {asked : Int}
    (isSecure : Settings.secure object = .bool secure)
    (isLevel : Settings.level object = .int asked) (environment : List (String × String)) :
    (listingRegistry environment object).result =
      (Registry.bootstrap (Source.layered (.process environment) []).get
        (Source.layered (.process environment) []).exhibit .absent (.bool secure)
        Limit.standardTable).2 := by
  simp only [listingRegistry, Settings.makeRegistry, Settings.creation, List.contains_nil,
    Bool.false_eq_true, if_false, List.find?_nil, isSecure, isLevel]
  exact Registry.result_create rfl (.inr ⟨asked, rfl⟩) rfl Log.defaultLevel

theorem lines_append (front : List String) (rest : List String) :
    Text.lines (front ++ rest) = Text.lines front ++ Text.lines rest := by
  induction front with
  | nil => simp [Text.lines]
  | cons line more inductionHypothesis =>
      simp only [Text.lines, List.cons_append, List.foldr_cons] at inductionHypothesis ⊢
      rw [inductionHypothesis]
      simp only [String.append_assoc]

section Outcome

variable {settings : Settings} (intact : settings.IsIntact) (environment : List (String × String))
  (listing : Listing)

include intact

/-- Where a setting is refused, the program ends with status one. It lists nothing, and says last
which setting is refused for which limit, the first in the table. -/
theorem list_of_refused (refused : ∃ standard, IsRefused environment standard) :
    ∃ front standard rest setting reason logged,
      StandardLimit.all = front ++ standard :: rest ∧
      (∀ earlier ∈ front, ¬ IsRefused environment earlier) ∧
      IsRefused environment standard ∧ setting? environment standard = some setting ∧
      reason ∈ ["not an integer", "out of range"] ∧
      list .identity environment settings listing =
        .ok ⟨1, "", Text.lines (logged ++
          ["error: " ++ refusalText setting standard.entry.systemProperty reason])⟩ := by
  obtain ⟨object, isObject, isSecure, isLevel⟩ := listingSettings_eq_ok intact listing
  have result := result_listingRegistry isSecure isLevel environment
  have someRefused : ∃ limit ∈ Limit.standardTable,
      Registry.IsRefused (Source.layeredAnswers (.process environment) []) .absent limit := by
    obtain ⟨standard, isRefused⟩ := refused
    have member : standard ∈ StandardLimit.all := by cases standard <;> decide
    exact ⟨standard.limit, List.mem_map_of_mem member,
      (isRefused_iff environment standard).2 isRefused⟩
  obtain ⟨before, limit, behind, value, state, fault, split, accepted, found, parsed, failed⟩ :=
    Registry.bootstrap_of_refused (Source.layered (.process environment) []).exhibit
      (.bool listing.secure) (.inl rfl) (isServed_standard environment) someRefused
  -- The table is split where the registry has stopped: at the first limit with a refused setting.
  obtain ⟨front, more, isAll, rfl, isBehind⟩ := List.map_eq_append_iff.1 split
  obtain ⟨standard, rest, rfl, rfl, -⟩ := List.map_eq_cons_iff.1 isBehind
  rw [found?_standard] at found
  obtain ⟨setting, isSetting, same⟩ := Option.map_eq_some_iff.1 found
  cases same
  obtain ⟨reason, isReason, report⟩ := report_of_refused parsed
  refine ⟨front, standard, rest, setting, reason,
    (listingRegistry environment object).entries.map entryLine, isAll, ?_,
    ⟨setting, fault, isSetting, parsed⟩, isSetting, isReason, ?_⟩
  · intro earlier member isRefused
    exact accepted earlier.limit (List.mem_map_of_mem member)
      ((isRefused_iff environment earlier).2 isRefused)
  · have isFailure : (listingRegistry environment object).result = .error fault :=
      result.trans failed
    have isLimits : ErrorClass.limitsNumber.isLimits = true := by decide +kernel
    simp only [list, isObject, isFailure, report, isLimits, bind, Except.bind, pure, Except.pure,
      if_true, lines_append]

/-- Where no setting is refused, the program ends with status zero and lists all standard limits
in order. -/
theorem list_of_accepted (accepted : ¬ ∃ standard, IsRefused environment standard) :
    ∃ lines logged column,
      list .identity environment settings listing = .ok ⟨0, Text.lines lines, Text.lines logged⟩ ∧
      List.Forall₂ (IsListedIn environment listing.secure column) StandardLimit.all lines := by
  obtain ⟨object, isObject, isSecure, isLevel⟩ := listingSettings_eq_ok intact listing
  have result := result_listingRegistry isSecure isLevel environment
  have noneRefused : ¬ ∃ limit ∈ Limit.standardTable,
      Registry.IsRefused (Source.layeredAnswers (.process environment) []) .absent limit := by
    rintro ⟨limit, member, isRefused⟩
    obtain ⟨standard, -, rfl⟩ := List.mem_map.1 member
    exact accepted ⟨standard, (isRefused_iff environment standard).1 isRefused⟩
  obtain ⟨registry, begun, resolved, -, -⟩ :=
    Registry.bootstrap_of_not_refused (Source.layered (.process environment) []).exhibit
      (.bool listing.secure) (.inl rfl) (isServed_standard environment) noneRefused
  have isRegistry : (listingRegistry environment object).result = .ok registry :=
    result.trans begun
  have limits : registry.rows.map Row.limit = Limit.standardTable :=
    Registry.limits_of_bootstrap begun
  refine ⟨listingLines registry, (listingRegistry environment object).entries.map entryLine,
    standardWidth + 2 + valueWidth, ?_, ?_⟩
  · simp only [list, isObject, isRegistry, bind, Except.bind, pure, Except.pure]
  · rw [listingLines, keyWidth_of_standard limits, List.forall₂_map_right_iff]
    have rows := List.forall₂_map_left_iff.1 resolved
    exact rows.imp fun standard row resolved => isListedIn_rowLine resolved

end Outcome

end ProtectionLimits.CommandLine
