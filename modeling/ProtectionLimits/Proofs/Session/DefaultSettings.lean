import ProtectionLimits.Proofs.Session.Settings

/-!
Contract: the default settings as a merge of what was asked for.

Owns the fields of the default settings over a run, computed from the commands alone: a reset
puts the initial fields in place, and an update that succeeds puts its own fields on top of the
default ones, or on top of those of the settings that it names (`merged`). No
two things that a caller can hold are made of one object: a call that derives, updates or resets
changes no settings that there were, and what it gives back or installs was not there before.

Does not own callers who change the default settings themselves, nor callers who assign to the
reserved names of settings: by one of them settings know what their options are.
-/

set_option autoImplicit false

namespace ProtectionLimits

/-- The fields of settings at the beginning, and behind a reset. -/
def Settings.initialFields : List (String × Value) :=
  [("secure_processing", .bool false), ("loglevel", .absent)]

namespace Session

/-! ### Fields -/

def fields? (session : Session) (number : Nat) : Option (List (String × Value)) :=
  ((session.settings.object? number).filter fun object => object.shape == .settings).map
    OptionObject.values

def defaultFields (session : Session) : List (String × Value) :=
  session.settings.defaultObject.values

/-! ### Merging -/

def givenFields (session : Session) (keywords : Keywords) : List (String × Value) :=
  match session.keywordValues keywords with
  | .ok values => values.filter fun entry => entry.1 != Settings.baseKeyword
  | .error _ => []

/-- The fields of the settings that keywords name as a base, or else the given ones. -/
def baseFields (session : Session) (keywords : Keywords)
    (defaults : List (String × Value)) : List (String × Value) :=
  match session.baseOf keywords with
  | .ok (.settings number) =>
      ((session.settings.object? number).map OptionObject.values).getD defaults
  | _ => defaults

def mergedBy (session : Session) (command : Command) (fields : List (String × Value)) :
    List (String × Value) :=
  match command, (session.perform command).result with
  | .object .resetDefaults, _ => Settings.initialFields
  | .object (.updateDefaults keywords), .ok _ =>
      OptionObject.overridden (session.baseFields keywords fields)
        (session.givenFields keywords)
  | _, _ => fields

def merged (session : Session) (fields : List (String × Value)) : List Command →
    List (String × Value)
  | [] => fields
  | command :: rest =>
      (session.answer command).1.merged (session.mergedBy command fields) rest

/-! ### One command -/

section Step

variable {session : Session}

theorem fields?_eq_some {number : Nat} {fields : List (String × Value)} :
    session.fields? number = some fields ↔ ∃ object, session.settings.object? number = some object ∧
      object.shape = .settings ∧ object.values = fields := by
  simp only [fields?, Option.map_eq_some_iff, Option.filter_eq_some_iff, beq_iff_eq, and_assoc]

/-- A command changes no object that was there, but the one that it is about. -/
theorem object?_perform_session {command : Command} {number : Nat} {object : OptionObject}
    (spared : session.changed? command ≠ some number)
    (held : session.settings.object? number = some object) :
    (session.perform command).session.settings.object? number = some object := by
  rcases settings_perform session command with same | ⟨asked, operation, rfl, asks, done⟩
  · rw [same, held]
  · exact Settings.object?_perform done (changed?_of_asks asks ▸ spared) held

/-- A refresh leaves the fields of usable settings alone. -/
theorem fields?_refreshed (session : Session) {number : Nat} {object : OptionObject}
    (usable : object.IsUsable) (isObject : session.settings.object? number = some object)
    (isSettings : object.shape = .settings) :
    session.refreshed.fields? number = some object.values := by
  obtain ⟨other, isOther, drawn⟩ := (isRedrawn_refreshed session).object? isObject
  exact fields?_eq_some.2
    ⟨other, isOther, drawn.shape.trans isSettings, drawn.values usable isSettings⟩

/-- Settings that were there are behind a command what they were before it, apart from how other
things look that they keep, unless the command is about them. -/
theorem isRedrawn_answer {command : Command} {number : Nat} {object : OptionObject}
    (spared : session.changed? command ≠ some number)
    (held : session.settings.object? number = some object) :
    ∃ other, (session.answer command).1.settings.object? number = some other ∧
      object.IsRedrawn other :=
  (isRedrawn_refreshed _).object? (object?_perform_session spared held)

theorem defaultFields_of_fields? {fields : List (String × Value)}
    (held : session.fields? session.settings.defaults = some fields) :
    session.defaultFields = fields := by
  obtain ⟨object, isObject, -, rfl⟩ := fields?_eq_some.1 held
  rw [defaultFields, Settings.defaultObject, isObject, Option.getD_some]

theorem defaultFields_refreshed (intact : session.settings.IsIntact) :
    session.refreshed.defaultFields = session.defaultFields := by
  obtain ⟨isObject, isSettings, isIntact⟩ := intact.defaultObject
  apply defaultFields_of_fields?
  rw [(isRedrawn_refreshed session).defaults]
  exact fields?_refreshed _ isIntact.usable isObject isSettings

/-- New settings hold what keywords give for them, and otherwise what their base holds. -/
theorem values_of_derived (intact : session.settings.IsIntact)
    (knowing : session.settings.KnowsOptions) {keywords : Keywords}
    {base : Settings.Base} {values : List (String × Value)} {object : OptionObject}
    (resolved : session.baseAndValues keywords = .ok (base, values))
    (derived : session.settings.derived base values = .ok object) :
    object.shape = .settings ∧ object.IsIntact ∧
      object.values = OptionObject.overridden
        (session.baseFields keywords session.defaultFields)
        (session.givenFields keywords) := by
  have isBase := isBase_of_baseAndValues resolved
  obtain ⟨held, isHeld, isSettings, isIntact, fields⟩ :=
    Settings.values_of_derived intact knowing isBase derived
  obtain ⟨all, isGiven, resolved⟩ := bind_eq_ok resolved
  obtain ⟨named, isNamed, resolved⟩ := bind_eq_ok resolved
  cases resolved
  refine ⟨isSettings, isIntact, ?_⟩
  rw [fields, givenFields, isGiven, baseFields, isNamed]
  cases base with
  | defaults =>
      cases isHeld
      rfl
  | settings number =>
      obtain ⟨object, isObject, -⟩ := isBase
      simp only [Settings.base, isObject, Option.getD_some, Except.ok.injEq] at isHeld
      subst isHeld
      simp only [isObject, Option.map_some, Option.getD_some]
  | other given => cases isHeld

/-- An update that succeeds installs new settings. -/
theorem perform_updateDefaults {keywords : Keywords} {reply : Reply}
    (done : (session.perform (.object (.updateDefaults keywords))).result = .ok reply) :
    ∃ base values object, session.baseAndValues keywords = .ok (base, values) ∧
      session.settings.derived base values = .ok object ∧
      (session.perform (.object (.updateDefaults keywords))).session =
        { session with settings := session.settings.install object } := by
  obtain ⟨changed, changes, same⟩ := session.becomes_of_ok done
  obtain ⟨⟨base, values⟩, resolved, changes⟩ := bind_eq_ok changes
  obtain ⟨settings, updated, changes⟩ := bind_eq_ok changes
  obtain ⟨object, derived, rfl⟩ := Settings.updateDefaults_eq_ok updated
  cases changes
  exact ⟨base, values, object, resolved, derived, same⟩

/-- Settings that are derived are new, and are held under their name. -/
theorem perform_derive {slot : String} {keywords : Keywords} {reply : Reply}
    (done : (session.perform (.object (.derive slot keywords))).result = .ok reply) :
    ∃ base values object, session.baseAndValues keywords = .ok (base, values) ∧
      session.settings.derived base values = .ok object ∧
      (session.perform (.object (.derive slot keywords))).session =
        session.addObject slot object := by
  obtain ⟨changed, changes, same⟩ := session.becomes_of_ok done
  obtain ⟨object, made, changes⟩ := bind_eq_ok changes
  obtain ⟨base, values, resolved, derived⟩ := deriveSettings_eq_ok made
  cases changes
  exact ⟨base, values, object, resolved, derived, same⟩

theorem defaultFields_install (object : OptionObject) :
    { session with settings := session.settings.install object }.defaultFields = object.values := by
  have isObject := Settings.object?_add_new session.settings object
  have added : (session.settings.install object).object? session.settings.objects.length =
      some object := isObject
  rw [defaultFields, Settings.defaultObject]
  dsimp only [Settings.install] at added ⊢
  rw [added, Option.getD_some]

/-- Only an update and a reset let the default settings be another object, and then it is a new
one. -/
theorem defaults_perform_session (session : Session) (command : Command) :
    (session.perform command).session.settings.defaults = session.settings.defaults ∨
      command.installs = true ∧
        (session.perform command).session.settings.defaults = session.settings.objects.length := by
  rcases settings_perform session command with same | ⟨asked, operation, rfl, asks, done⟩
  · exact .inl (congrArg Settings.defaults same)
  · have installed := Settings.defaults_perform done
    rw [installs_of_asks asks] at installed
    split at installed
    · rename_i installs
      exact .inr ⟨installs, installed⟩
    · exact .inl installed

/-- The default fields behind a command are those before it, merged with what it asks for. -/
theorem defaultFields_perform (intact : session.settings.IsIntact)
    (knowing : session.settings.KnowsOptions) {command : Command}
    (spared : session.changed? command ≠ some session.settings.defaults) :
    (session.perform command).session.defaultFields =
      session.mergedBy command session.defaultFields := by
  -- Any other command than an update or a reset leaves both the default object and its number.
  rcases Bool.eq_false_or_eq_true command.installs with installs | installs
  · cases command with
    | object command =>
        cases command with
        | updateDefaults keywords =>
            cases done : (session.perform (.object (.updateDefaults keywords))).result with
            | error fault =>
                have same : (session.perform (.object (.updateDefaults keywords))).session =
                    session := session.session_becomes_of_error done
                simp only [same, mergedBy, done]
            | ok reply =>
                obtain ⟨base, values, object, resolved, derived, behind⟩ :=
                  perform_updateDefaults done
                rw [behind, defaultFields_install]
                simp only [mergedBy, done]
                exact (values_of_derived intact knowing resolved derived).2.2
        | resetDefaults =>
            exact defaultFields_install Settings.initialObject
        | _ => cases installs
    | _ => cases installs
  · have kept : session.mergedBy command session.defaultFields = session.defaultFields := by
      cases command with
      | object command =>
          cases command with
          | updateDefaults | resetDefaults => cases installs
          | _ => rfl
      | _ => rfl
    have isDefaults := object?_perform_session spared intact.defaultObject.1
    rcases session.defaults_perform_session command with same | ⟨others, -⟩
    · rw [kept, defaultFields, Settings.defaultObject, same, isDefaults]
      rfl
    · rw [installs] at others
      cases others

theorem defaultFields_answer (intact : session.settings.IsIntact)
    (knowing : session.settings.KnowsOptions) {command : Command}
    (spared : session.changed? command ≠ some session.settings.defaults) :
    (session.answer command).1.defaultFields = session.mergedBy command session.defaultFields :=
  (defaultFields_refreshed (isIntact_perform intact spared)).trans
    (defaultFields_perform intact knowing spared)

/-- A command that installs nothing and is not about the default settings leaves them alone. -/
theorem defaults_answer_of_idle (intact : session.settings.IsIntact) {command : Command}
    (idle : command.installs = false)
    (spared : session.changed? command ≠ some session.settings.defaults) :
    (session.answer command).1.settings.defaults = session.settings.defaults ∧
      (session.answer command).1.defaultFields = session.defaultFields := by
  have same : (session.answer command).1.settings.defaults = session.settings.defaults := by
    rw [answer, (isRedrawn_refreshed _).defaults]
    rcases session.defaults_perform_session command with same | ⟨installs, -⟩
    · exact same
    · rw [idle] at installs
      cases installs
  obtain ⟨isObject, isSettings, isIntact⟩ := intact.defaultObject
  refine ⟨same, defaultFields_of_fields? ?_⟩
  rw [same]
  exact fields?_refreshed _ isIntact.usable (object?_perform_session spared isObject) isSettings

/-- Settings that are derived were not there before. -/
theorem answer_derive (intact : session.settings.IsIntact)
    (knowing : session.settings.KnowsOptions) {slot : String} {keywords : Keywords} {reply : Reply}
    (done : (session.perform (.object (.derive slot keywords))).result = .ok reply) :
    ∃ number, session.settings.object? number = none ∧
      (session.answer (.object (.derive slot keywords))).1.heldUnder slot = .ok (.object number) ∧
      (session.answer (.object (.derive slot keywords))).1.fields? number =
        some (OptionObject.overridden (session.baseFields keywords session.defaultFields)
          (session.givenFields keywords)) := by
  obtain ⟨base, values, object, resolved, derived, behind⟩ := perform_derive done
  obtain ⟨isSettings, isIntact, fields⟩ := values_of_derived intact knowing resolved derived
  have added := Settings.object?_add_new session.settings object
  refine ⟨session.settings.objects.length, List.getElem?_eq_none (Nat.le_refl _), ?_, ?_⟩
  · rw [answer, behind, heldUnder, (refreshed_keeps _).2, addObject, lookup_hold]
    rfl
  · rw [answer, behind, ← fields]
    exact fields?_refreshed (session.addObject slot object) isIntact.usable added isSettings

/-- Settings that are installed were not there before. -/
theorem defaults_answer_of_installs {command : Command} {reply : Reply}
    (installs : command.installs = true) (done : (session.perform command).result = .ok reply) :
    session.settings.object? (session.answer command).1.settings.defaults = none := by
  have isNew : (session.perform command).session.settings.defaults =
      session.settings.objects.length := by
    cases command with
    | object command =>
        cases command with
        | updateDefaults keywords =>
            obtain ⟨_, _, object, -, -, behind⟩ := perform_updateDefaults done
            rw [behind]
            rfl
        | resetDefaults => rfl
        | _ => cases installs
    | _ => cases installs
  rw [answer, (isRedrawn_refreshed _).defaults, isNew]
  exact List.getElem?_eq_none (Nat.le_refl _)

end Step

/-! ### Runs -/

/-- The default fields behind a run are those before it, merged with what it asks for. -/
theorem defaultFields_answerAll {session : Session} (intact : session.settings.IsIntact)
    (knowing : session.settings.KnowsOptions) {commands : List Command}
    (spares : session.sparesDefaults commands = true)
    (unreserved : ∀ command ∈ commands, command.sparesReserved = true) :
    (session.answerAll commands).1.defaultFields =
      session.merged session.defaultFields commands := by
  induction commands generalizing session with
  | nil => rfl
  | cons command rest inductionHypothesis =>
      simp only [sparesDefaults, Bool.and_eq_true, bne_iff_ne] at spares
      rw [List.forall_mem_cons] at unreserved
      have fields := inductionHypothesis (isIntact_answer intact spares.1)
        (knowsOptions_answer knowing unreserved.1) spares.2 unreserved.2
      rw [defaultFields_answer intact knowing spares.1] at fields
      exact fields

/-- In every run that leaves the default settings themselves and the reserved names of settings
alone, the fields of the default settings are the initial ones behind the last reset, with what
each update since has given put on top: on top of the default fields at the time, or of the fields
at the time of the settings that it has named. A call to derive or update that fails leaves
everything as it was. No command changes settings that were there, but those that it is about, and
only an update or a reset lets the default settings be another object. Settings that are derived
and settings that are installed were not there before, so what is done later to a base, to derived
settings or to former default settings does nothing to the default settings. -/
theorem default_settings_merge {level : Int} {bindings : List (String × String)}
    {commands : List Command} (spares : (start level bindings).sparesDefaults commands = true)
    (unreserved : ∀ command ∈ commands, command.sparesReserved = true) :
    let session := ((start level bindings).answerAll commands).1
    session.defaultFields = (start level bindings).merged Settings.initialFields commands ∧
    (∀ slot keywords fault,
      (session.perform (.object (.derive slot keywords))).result = .error fault →
      (session.perform (.object (.derive slot keywords))).session = session) ∧
    (∀ keywords fault,
      (session.perform (.object (.updateDefaults keywords))).result = .error fault →
      (session.perform (.object (.updateDefaults keywords))).session = session) ∧
    (∀ command number object, session.changed? command ≠ some number →
      session.settings.object? number = some object →
      ∃ other, (session.answer command).1.settings.object? number = some other ∧
        object.IsRedrawn other) ∧
    (∀ command, command.installs = false →
      session.changed? command ≠ some session.settings.defaults →
      (session.answer command).1.settings.defaults = session.settings.defaults ∧
        (session.answer command).1.defaultFields = session.defaultFields) ∧
    (∀ slot keywords reply,
      (session.perform (.object (.derive slot keywords))).result = .ok reply →
      ∃ number, session.settings.object? number = none ∧
        (session.answer (.object (.derive slot keywords))).1.heldUnder slot = .ok (.object number) ∧
        (session.answer (.object (.derive slot keywords))).1.fields? number =
          some (OptionObject.overridden (session.baseFields keywords session.defaultFields)
            (session.givenFields keywords))) ∧
    (∀ command reply, command.installs = true → (session.perform command).result = .ok reply →
      session.settings.object? (session.answer command).1.settings.defaults = none) := by
  have begun : (start level bindings).settings.KnowsOptions := Settings.knowsOptions_initial
  have intact := isIntact_answerAll Settings.isIntact_initial spares
  have knowing := knowsOptions_answerAll begun unreserved
  have merged := defaultFields_answerAll Settings.isIntact_initial begun spares unreserved
  generalize ((start level bindings).answerAll commands).1 = session at intact knowing merged
  refine ⟨merged, ?_, ?_, ?_, ?_, ?_, ?_⟩
  · intro slot keywords fault failed
    exact session.session_becomes_of_error failed
  · intro keywords fault failed
    exact session.session_becomes_of_error failed
  · intro command number object spared held
    exact isRedrawn_answer spared held
  · intro command idle spared
    exact defaults_answer_of_idle intact idle spared
  · intro slot keywords reply done
    exact answer_derive intact knowing done
  · intro command reply installs done
    exact defaults_answer_of_installs installs done

/-- An update has put a field on top of those of settings that it names, which are changed
afterwards; settings are derived and changed, an update fails, and another one puts one more field
on top. What the default settings hold was given by the updates, or held by the base when it was
named. -/
theorem default_settings_merge_base :
    ∃ commands, (start 30 []).sparesDefaults commands = true ∧
      (∀ command ∈ commands, command.sparesReserved = true) ∧
      ((start 30 []).answerAll commands).1.defaultFields =
        (start 30 []).merged Settings.initialFields commands ∧
      (((start 30 []).answerAll commands).1.defaultFields.map fun field =>
        (field.1, field.2.isTrue, (Log.levelOf field.2).toOption)) =
          [("secure_processing", true, none), ("loglevel", true, some 40)] ∧
      ((start 30 []).answerAll commands).1.settings.defaults = 4 := by
  let commands : List Command :=
    [.object (.makeSettings "base" [.bool true] []),
      .object (.updateDefaults [("settings", .held "base"), ("loglevel", .value (.int 5))]),
      .object (.assign "base" "secure_processing" (.bool false)),
      .object (.derive "copy" []),
      .object (.assign "copy" "loglevel" (.text "info")),
      .object (.updateDefaults [("loglevel", .value (.text "loud"))]),
      .object (.updateDefaults [("loglevel", .value (.text "Error"))])]
  have spares : (start 30 []).sparesDefaults commands = true := by decide +kernel
  have unreserved : ∀ command ∈ commands, command.sparesReserved = true := by decide +kernel
  exact ⟨commands, spares, unreserved, (default_settings_merge spares unreserved).1,
    by decide +kernel, by decide +kernel⟩

end Session

end ProtectionLimits
