import ProtectionLimits.Proofs.Session.Scope
import ProtectionLimits.Proofs.Session.Settings

/-!
Contract: settings that are always usable.

Owns what a caller can rely on in settings, whatever was done to them and whatever of it failed.
An option takes a value exactly if there is a use for it: what settings hold as a level can
always be asked for, so a registry that is made from settings is the one that their other
options and the arguments of the call ask for. That settings make registries like any other
caller is `perform_makeFrom`; the level that they ask for then has no part in what is made.

Does not own callers who assign to the names that settings have for themselves: the slots in which
they keep their options, and the reserved ones.
-/

set_option autoImplicit false

namespace ProtectionLimits.Session

/-! ### Assignments -/

/-- An assignment to an option of something held succeeds exactly if the option takes the value. -/
theorem result_assign_option {session : Session} {slot name : String} {number : Nat}
    {object : OptionObject} {field : OptionField}
    (isHeld : session.heldUnder slot = .ok (.object number))
    (isObject : session.settings.object? number = some object)
    (known : object.shape.field? name = some field) (value : Value) :
    (∃ reply, (session.perform (.object (.assign slot name value))).result = .ok reply) ↔
      ∃ assigned, object.assign name value = .ok assigned := by
  have found : session.settings.objects[number]? = some object := isObject
  simp only [perform, ObjectCommand.run, giveAndRead, isHeld, giveHeld, changeAt, found, bind,
    Except.bind]
  cases accepted : object.assign name value with
  | error fault => simp [becomes, Except.map]
  | ok assigned =>
      refine iff_of_true ?_ ⟨assigned, rfl⟩
      have inside := Settings.lt_of_object? isObject
      have knownStill : assigned.shape.field? name = some field :=
        (OptionObject.shape_of_assign accepted).symm ▸ known
      simp [becomes, Except.map, readHeld, Settings.object?, inside, OptionObject.read,
        OptionClass.read_of_isApart assigned.shape.isApart knownStill, pure, Except.pure]

theorem result_setLevel (session : Session) (value : Value) :
    (∃ reply, (session.perform (.level (.setLevel value))).result = .ok reply) ↔
      ∃ chosen, Log.levelOf value = .ok chosen := by
  simp only [perform, LevelCommand.run, withLevelDetail, setLevel, bind, Except.bind]
  cases Log.levelOf value with
  | error fault => simp [becomes]
  | ok chosen => exact iff_of_true ⟨_, rfl⟩ ⟨chosen, rfl⟩

/-! ### Registries from settings -/

def RegistryArguments.decidedBy (arguments : RegistryArguments) (object : OptionObject) :
    RegistryArguments :=
  { arguments with secure := some (Settings.secure object), level := some (Settings.level object) }

/-- Settings make a registry by passing on what they decide. -/
theorem perform_makeFrom {session : Session} {settings : String} {number : Nat}
    {object : OptionObject} (isHeld : session.heldUnder settings = .ok (.object number))
    (isObject : session.settings.object? number = some object)
    (isSettings : object.shape = .settings) (hasCall : object.stored? "get_registry" = none)
    (slot : String) {arguments : RegistryArguments} (unsecured : arguments.secure = none)
    (unleveled : arguments.level = none) (noOthers : arguments.others = []) :
    session.perform (.registry (.makeFrom settings slot arguments)) =
      session.perform (.registry (.make slot (arguments.decidedBy object))) := by
  have made : session.settingsFor (.object number) = .ok object := by
    simp [settingsFor, isObject, isSettings, hasCall]
  have request : session.resolveRequest arguments =
      (session.resolveArguments arguments).map fun found =>
        ({ table := found.1.table, source := found.1.source, names := found.1.names
           keywords := [] }, found.2) := by
    simp only [resolveRequest, unsecured, unleveled, noOthers]
    cases session.resolveArguments arguments <;> rfl
  have keepsOthers : ∀ found, session.resolveArguments arguments = .ok found →
      found.1.keywords = [] := by
    intro found resolved
    obtain ⟨source, -, resolved⟩ := bind_eq_ok resolved
    obtain ⟨table, -, resolved⟩ := bind_eq_ok resolved
    cases resolved
    exact noOthers
  have passed := session.resolveArguments_with arguments (some (Settings.secure object))
    (some (Settings.level object))
  simp only [perform, RegistryCommand.run, makeRegistryFrom, isHeld, made, request, makeRegistry,
    RegistryArguments.decidedBy]
  rw [passed]
  cases resolved : session.resolveArguments arguments with
  | error fault => rfl
  | ok found =>
      have none := keepsOthers found resolved
      obtain ⟨⟨secure, table, source, names, level, keywords⟩, held⟩ := found
      cases none
      rfl

/-! ### Usable settings -/

section Usable

variable {object : OptionObject}

theorem exists_secure (usable : object.IsUsable) (isSettings : object.shape = .settings) :
    ∃ truth, Settings.secure object = .bool truth :=
  usable ⟨"secure_processing", .flag, .bool false⟩ (isSettings ▸ .head _)

/-- What usable settings hold as a level can be asked for. -/
theorem isLevelRequest_level (usable : object.IsUsable) (isSettings : object.shape = .settings) :
    Registry.IsLevelRequest (Settings.level object) :=
  usable ⟨"loglevel", .level, .absent⟩ (isSettings ▸ .tail _ (.head _))

/-- The level of usable settings has no part in what registry they make. -/
theorem result_makeRegistry (usable : object.IsUsable) (isSettings : object.shape = .settings)
    {request : Settings.RegistryRequest} (noKeywords : request.keywords = []) (logLevel : Int) :
    (Settings.makeRegistry object request logLevel).result =
        (Registry.create
          { secure := Settings.secure object, table := request.table, source := request.source
            names := request.names, level := .absent, keywords := [] } logLevel).result ∧
      (Settings.makeRegistry object request logLevel).level = logLevel := by
  simp only [Settings.makeRegistry, Settings.creation, noKeywords, List.contains_nil,
    Bool.false_eq_true, if_false, List.find?_nil]
  rw [Registry.result_create_of_isLevelRequest _ (isLevelRequest_level usable isSettings),
    Registry.result_create_of_isLevelRequest _ (.inl rfl)]
  exact ⟨rfl, Registry.level_create _ _⟩

end Usable

/-! ### Runs -/

/-- Whether a session comes about by commands that assign nothing to the names that settings have
for themselves. -/
def IsPubliclyReachable (session : Session) : Prop :=
  ∃ level bindings commands, (∀ command ∈ commands, Command.sparesPrivate command = true) ∧
    ((start level bindings).answerAll commands).1 = session

theorem IsPubliclyReachable.isUsable {session : Session} (reachable : session.IsPubliclyReachable) :
    session.settings.IsUsable := by
  obtain ⟨level, bindings, commands, spare, rfl⟩ := reachable
  exact isUsable_answerAll Settings.isUsable_initial spare

/-- Settings that were made, derived, installed or changed in any way, however much of it failed,
hold a truth value and a level that can be asked for or none. They take as their level exactly
what the level of the log could be set to, and nothing at all. So a registry that is made from
them never fails because of their level: it is the registry, or the failure, that a caller
gets who passes their other option and asks for no level. What is held behind it is the same,
and the level of the log is what it was. -/
theorem settings_always_usable {session : Session} (reachable : session.IsPubliclyReachable)
    {number : Nat} {object : OptionObject}
    (isObject : session.settings.object? number = some object)
    (isSettings : object.shape = .settings) :
    (∃ truth, Settings.secure object = .bool truth) ∧
    (Settings.level object = .absent ∨ ∃ chosen, Log.levelOf (Settings.level object) = .ok chosen) ∧
    (∀ slot value, session.heldUnder slot = .ok (.object number) →
      ((∃ reply, (session.perform (.object (.assign slot "loglevel" value))).result = .ok reply) ↔
        value = .absent ∨
          ∃ reply, (session.perform (.level (.setLevel value))).result = .ok reply)) ∧
    (∀ (request : Settings.RegistryRequest) logLevel, request.keywords = [] →
      (Settings.makeRegistry object request logLevel).result =
          (Registry.create
            { secure := Settings.secure object, table := request.table, source := request.source
              names := request.names, level := .absent, keywords := [] } logLevel).result ∧
        (Settings.makeRegistry object request logLevel).level = logLevel) ∧
    (∀ settings slot (arguments : RegistryArguments),
      session.heldUnder settings = .ok (.object number) → object.stored? "get_registry" = none →
      arguments.secure = none → arguments.level = none → arguments.others = [] →
      let made := session.perform (.registry (.makeFrom settings slot arguments))
      let plain := session.perform
        (.registry (.make slot { arguments with secure := some (Settings.secure object) }))
      made.session = plain.session ∧ made.result = plain.result ∧ made.details = plain.details ∧
        made.session.level = session.level) := by
  have usable : object.IsUsable :=
    reachable.isUsable object (List.mem_of_getElem? isObject) isSettings
  refine ⟨exists_secure usable isSettings, isLevelRequest_level usable isSettings, ?_, ?_, ?_⟩
  · intro slot value isHeld
    have known : object.shape.field? "loglevel" = some ⟨"loglevel", .level, .absent⟩ :=
      isSettings ▸ rfl
    have rewritable : object.shape.isRewritable = true := isSettings ▸ rfl
    rw [result_assign_option isHeld isObject known,
      OptionObject.assign_option_iff rewritable known, result_setLevel]
    rfl
  · intro request logLevel noKeywords
    exact result_makeRegistry usable isSettings noKeywords logLevel
  · intro settings slot arguments isHeld hasCall unsecured unleveled noOthers
    dsimp only
    rw [perform_makeFrom isHeld isObject isSettings hasCall slot unsecured unleveled noOthers]
    -- The two calls ask for different levels, and for the same in all else.
    let decided := { arguments with secure := some (Settings.secure object) }
    have unasked : decided = decided.askingFor none := by
      rw [RegistryArguments.askingFor, ← unleveled]
    obtain ⟨entries, same⟩ := perform_make_askingFor session slot decided
      (isLevelRequest_level usable isSettings)
    rw [← unasked] at same
    have asked : arguments.decidedBy object =
        decided.askingFor (some (Settings.level object)) := rfl
    rw [asked, same]
    exact ⟨rfl, rfl, rfl, level_make session slot decided⟩

/-- Settings were derived from default settings that an assignment and a deletion have failed to
change. They ask for a level below all others, make a registry and leave the level alone. -/
theorem settings_always_usable_derived :
    ∃ (session : Session) (object : OptionObject),
      session.IsPubliclyReachable ∧ session.settings.object? 2 = some object ∧
      object.shape = .settings ∧ session.heldUnder "derived" = .ok (.object 2) ∧
      (Log.levelOf (Settings.level object)).toOption = some (-5) ∧
      (∃ truth, Settings.secure object = .bool truth) ∧
      (∃ reply, (session.perform
        (.object (.assign "derived" "loglevel" (.text " warn ")))).result = .ok reply) ∧
      ¬ (∃ reply, (session.perform
        (.object (.assign "derived" "loglevel" (.text "loud")))).result = .ok reply) ∧
      (session.perform (.registry (.makeFrom "derived" "r"
        ⟨none, none, .absent, .process, .standard, []⟩))).session.level = 20 := by
  let commands : List Command :=
    [.object (.updateDefaults [("loglevel", .value (.text "info"))]),
      .object (.holdDefaults "defaults"),
      .object (.assign "defaults" "loglevel" (.text "loud")),
      .object (.delete "defaults" "loglevel"),
      .object (.derive "derived"
        [("loglevel", .value (.int (-5))), ("settings", .held "defaults")])]
  let session := ((start 20 []).answerAll commands).1
  have reachable : session.IsPubliclyReachable := ⟨20, [], commands, by decide +kernel, rfl⟩
  obtain ⟨object, isObject⟩ : ∃ object, session.settings.object? 2 = some object :=
    Option.isSome_iff_exists.1 (by decide +kernel)
  have shown : (session.settings.object? 2).map (fun object =>
      (object.shape, (Log.levelOf (Settings.level object)).toOption,
        (object.stored? "get_registry").isNone)) = some (.settings, some (-5), true) := by
    decide +kernel
  rw [isObject] at shown
  simp only [Option.map_some, Option.some.injEq, Prod.mk.injEq, Option.isNone_iff_eq_none] at shown
  obtain ⟨isSettings, level, hasCall⟩ := shown
  have isHeld : session.heldUnder "derived" = .ok (.object 2) := by
    have found : session.held.lookup "derived" = some (.object 2) := by decide +kernel
    rw [heldUnder, found]
  obtain ⟨secure, -, assigns, -, makes⟩ := settings_always_usable reachable isObject isSettings
  refine ⟨session, object, reachable, isObject, isSettings, isHeld, level, secure, ?_, ?_, ?_⟩
  · exact (assigns "derived" (.text " warn ") isHeld).2
      (.inr ((result_setLevel session (.text " warn ")).2 ⟨30, rfl⟩))
  · intro succeeds
    rcases (assigns "derived" (.text "loud") isHeld).1 succeeds with absent | isSet
    · cases absent
    · obtain ⟨chosen, isLevel⟩ := (result_setLevel session (.text "loud")).1 isSet
      cases isLevel
  · have remains := (makes "derived" "r" ⟨none, none, .absent, .process, .standard, []⟩ isHeld
      hasCall rfl rfl rfl).2.2.2
    have level : session.level = 20 := by decide +kernel
    rw [remains, level]

end ProtectionLimits.Session
