import ProtectionLimits.Proofs.Session.Refresh
import ProtectionLimits.Session.Transcript

/-!
Contract: the store of settings under the commands of a session.

Owns what each command asks of the store: the store behind a command is the one before it, or
the one behind the call that the command asks for (`isAsked_object`); commands about anything
else than objects leave the store alone. So what lasts under the calls about the store lasts
through every run: its settings stay usable if the run assigns nothing to the names that they have
for themselves, its objects know their options if the run assigns nothing to reserved names, and
the default settings stay intact if the run leaves them alone.

Does not own what the calls about the store do.
-/

set_option autoImplicit false

namespace ProtectionLimits

theorem bind_eq_ok {Found Result : Type} {first : Except Fault Found}
    {rest : Found → Except Fault Result} {result : Result} (done : first >>= rest = .ok result) :
    ∃ found, first = .ok found ∧ rest found = .ok result := by
  cases first with
  | error fault => cases done
  | ok found => exact ⟨found, rfl, done⟩

def Command.sparesPrivate : Command → Bool
  | .object (.assign _ name _) => !Shape.settings.isPrivate name
  | _ => true

def Command.sparesReserved : Command → Bool
  | .object (.assign _ name _) => !isReserved name
  | _ => true

/-- Whether a command lets the default settings be another object. -/
def Command.installs : Command → Bool
  | .object (.updateDefaults _) => true
  | .object .resetDefaults => true
  | _ => false

namespace Session

/-! ### Commands that leave the store alone -/

section Frame

variable (session : Session)

/-- A call that may change the session changes it as it says if it succeeds, and not at all if
it fails. -/
theorem becomes_cases (result : Except Fault (Session × Reply)) :
    (∃ fault, result = .error fault ∧ session.becomes result = ⟨session, .error fault, [], []⟩) ∨
      ∃ changed reply, result = .ok (changed, reply) ∧
        session.becomes result = ⟨changed, .ok reply, [], []⟩ := by
  cases result with
  | error fault => exact .inl ⟨fault, rfl, rfl⟩
  | ok done => exact .inr ⟨done.1, done.2, rfl, rfl⟩

theorem session_becomes_of_error {result : Except Fault (Session × Reply)} {fault : Fault}
    (failed : (session.becomes result).result = .error fault) :
    (session.becomes result).session = session := by
  rcases session.becomes_cases result with ⟨_, -, same⟩ | ⟨changed, reply, -, same⟩
  · rw [same]
  · rw [same] at failed
    cases failed

theorem becomes_of_ok {result : Except Fault (Session × Reply)} {reply : Reply}
    (done : (session.becomes result).result = .ok reply) :
    ∃ changed, result = .ok (changed, reply) ∧ (session.becomes result).session = changed := by
  rcases session.becomes_cases result with ⟨fault, -, same⟩ | ⟨changed, other, isResult, same⟩
  · rw [same] at done
    cases done
  · rw [same] at done
    cases done
    exact ⟨changed, isResult, by rw [same]⟩

theorem settings_becomes {result : Except Fault (Session × Reply)}
    (keeps : ∀ changed reply, result = .ok (changed, reply) →
      changed.settings = session.settings) :
    (session.becomes result).session.settings = session.settings := by
  rcases session.becomes_cases result with ⟨fault, -, same⟩ | ⟨changed, reply, done, same⟩
  · rw [same]
  · rw [same]
    exact keeps changed reply done

theorem settings_afterMaking (slot : String) (source : Option Held) (run : Log.Run Registry) :
    (session.afterMaking slot source run).session.settings = session.settings := by
  rw [afterMaking]
  cases run.result <;> rfl

theorem settings_registryCommand (command : RegistryCommand) :
    (command.run session).session.settings = session.settings := by
  cases command with
  | make slot arguments =>
      simp only [RegistryCommand.run, makeRegistry]
      split
      · rfl
      · exact settings_afterMaking ..
  | makeFrom settings slot arguments =>
      simp only [RegistryCommand.run, makeRegistryFrom]
      split
      · rfl
      · split
        · rfl
        · rfl
        · rfl
        · exact settings_afterMaking ..
  | call slot call =>
      simp only [RegistryCommand.run, callRegistry]
      split
      · rfl
      · split
        · rfl
        · split
          · rfl
          · simp only [changeRegistry]
            split <;> rfl
      · simp only [refuseChange]
        split <;> rfl
  | ask slot query => rfl

theorem settings_sourceCommand (command : SourceCommand) :
    (command.run session).session.settings = session.settings := by
  cases command with
  | make slot argument =>
      apply settings_becomes
      intro changed reply done
      obtain ⟨⟨source, held⟩, -, done⟩ := bind_eq_ok done
      cases held with
      | none =>
          obtain ⟨text, -, done⟩ := bind_eq_ok done
          cases done
          rfl
      | some held =>
          obtain ⟨text, -, done⟩ := bind_eq_ok done
          cases done
          rfl
  | get slot name => rfl
  | makeAbstract => rfl

theorem settings_afterPrinting (held : Held) (destination : Destination) (stored : String)
    (result : Except Fault Bool) :
    (session.afterPrinting held destination stored result).session.settings =
      session.settings := by
  rw [afterPrinting]
  split <;> rfl

theorem settings_warningCommand (command : WarningCommand) :
    (command.run session).session.settings = session.settings := by
  cases command with
  | add tracker parser property =>
      apply settings_becomes
      intro changed reply done
      obtain ⟨⟨number, found⟩, -, done⟩ := bind_eq_ok done
      obtain ⟨⟨isNew, added⟩, -, done⟩ := bind_eq_ok done
      cases done
      rfl
  | discard tracker parser property =>
      apply settings_becomes
      intro changed reply done
      obtain ⟨⟨number, found⟩, -, done⟩ := bind_eq_ok done
      obtain ⟨remaining, -, done⟩ := bind_eq_ok done
      cases done
      rfl
  | clear tracker =>
      apply settings_becomes
      intro changed reply done
      obtain ⟨⟨number, found⟩, -, done⟩ := bind_eq_ok done
      obtain ⟨cleared, -, done⟩ := bind_eq_ok done
      cases done
      rfl
  | print tracker parser property complaint destination =>
      simp only [WarningCommand.run, printWarning]
      split
      · rfl
      · split
        · exact settings_afterPrinting ..
        · split
          · exact settings_afterPrinting ..
          · exact settings_afterPrinting (session.replaceTracker _ _) ..
        · exact settings_afterPrinting ..
  | make | size | has | literal => rfl

theorem settings_levelCommand (command : LevelCommand) :
    (command.run session).session.settings = session.settings := by
  cases command with
  | setLevel level =>
      refine settings_becomes session fun changed reply done => ?_
      obtain ⟨chosen, -, done⟩ := bind_eq_ok done
      cases done
      rfl
  | levelOf | current | callWithin => rfl

theorem settings_languageCommand (command : LanguageCommand) :
    (command.run session).session.settings = session.settings := by
  cases command with
  | activate request =>
      apply settings_becomes
      intro changed reply done
      obtain ⟨started, -, done⟩ := bind_eq_ok done
      cases done
      rfl
  | deactivate | isActive | message | shared => rfl

theorem settings_inspectionCommand (command : InspectionCommand) :
    (command.run session).session = session := by
  cases command with
  | limit name =>
      simp only [InspectionCommand.run, describes]
      split <;> rfl
  | state number =>
      simp only [InspectionCommand.run, describes]
      split <;> rfl
  | error made =>
      simp only [InspectionCommand.run, describeError]
      split <;> rfl
  | program arguments bindings =>
      simp only [InspectionCommand.run, runProgram]
      split <;> rfl
  | parse | constants | compareStates | formerName | programLevel => rfl

end Frame

/-! ### Calls about objects -/

/-- What a call about objects asks of the store. The rest of such a call is names. -/
inductive Asks (session : Session) : ObjectCommand → Settings.Operation → Prop
  | make {shape : Shape} {slot : String} {positional : List Value} {keywords : Keywords}
      {values : List (String × Value)} (resolved : session.keywordValues keywords = .ok values) :
      Asks session (.make shape slot positional keywords) (.make shape positional values)
  | makeSettings {slot : String} {positional : List Value} {keywords : Keywords}
      {values : List (String × Value)} (resolved : session.keywordValues keywords = .ok values) :
      Asks session (.makeSettings slot positional keywords) (.make .settings positional values)
  | derive {slot : String} {keywords : Keywords} {base : Settings.Base}
      {values : List (String × Value)}
      (resolved : session.baseAndValues keywords = .ok (base, values)) :
      Asks session (.derive slot keywords) (.derive base values)
  | updateDefaults {keywords : Keywords} {base : Settings.Base} {values : List (String × Value)}
      (resolved : session.baseAndValues keywords = .ok (base, values)) :
      Asks session (.updateDefaults keywords) (.updateDefaults base values)
  | resetDefaults : Asks session .resetDefaults .resetDefaults
  | assign {slot name : String} {value : Value} {number : Nat}
      (held : session.heldUnder slot = .ok (.object number)) :
      Asks session (.assign slot name value) (.assign number name value)
  | delete {slot name : String} {number : Nat}
      (held : session.heldUnder slot = .ok (.object number)) :
      Asks session (.delete slot name) (.delete number name)

/-- Whether a store is the one before a call about objects, or one behind what the call asks for. -/
def IsAsked (session : Session) (command : ObjectCommand) (settings : Settings) : Prop :=
  settings = session.settings ∨ ∃ operation, session.Asks command operation ∧
    session.settings.perform operation = .ok settings

/-- The number of the object that a command gives something to or takes something from. -/
def changed? (session : Session) : Command → Option Nat
  | .object (.assign slot _ _) => match session.heldUnder slot with
    | .ok (.object number) => some number
    | _ => none
  | .object (.delete slot _) => match session.heldUnder slot with
    | .ok (.object number) => some number
    | _ => none
  | _ => none

/-- Whether the commands of a run give nothing to the default settings that there are at the time,
and take nothing from them. -/
def sparesDefaults (session : Session) : List Command → Bool
  | [] => true
  | command :: rest =>
      session.changed? command != some session.settings.defaults &&
        (session.answer command).1.sparesDefaults rest

section Objects

variable {session : Session}

theorem settings_withRegistry {number : Nat} {name : String}
    {change : Registry.Form → Except Fault Registry.Form} {changed : Session}
    (done : session.withRegistry number name change = .ok changed) :
    changed.settings = session.settings := by
  rw [withRegistry] at done
  split at done
  · cases done
    rfl
  · obtain ⟨form, -, rfl⟩ := Registry.map_eq_ok done
    rfl

theorem settings_giveHeld {held : Held} {name : String} {value : Value} {given : Session}
    (accepted : session.giveHeld held name value = .ok given) :
    given.settings = session.settings ∨ ∃ number, held = .object number ∧
      session.settings.perform (.assign number name value) = .ok given.settings := by
  cases held with
  | registry number =>
      rw [giveHeld] at accepted
      exact .inl (settings_withRegistry accepted)
  | source number =>
      obtain ⟨sources, -, rfl⟩ := Registry.map_eq_ok accepted
      exact .inl rfl
  | object number =>
      obtain ⟨objects, changed, rfl⟩ := Registry.map_eq_ok accepted
      refine .inr ⟨number, rfl, ?_⟩
      rw [Settings.perform, changed]
      rfl
  | tracker number =>
      obtain ⟨trackers, -, rfl⟩ := Registry.map_eq_ok accepted
      exact .inl rfl

theorem settings_takeHeld {held : Held} {name : String} {left : Session}
    (accepted : session.takeHeld held name = .ok left) :
    left.settings = session.settings ∨ ∃ number, held = .object number ∧
      session.settings.perform (.delete number name) = .ok left.settings := by
  cases held with
  | registry number =>
      rw [takeHeld] at accepted
      exact .inl (settings_withRegistry accepted)
  | source number =>
      obtain ⟨sources, -, rfl⟩ := Registry.map_eq_ok accepted
      exact .inl rfl
  | object number =>
      obtain ⟨objects, changed, rfl⟩ := Registry.map_eq_ok accepted
      refine .inr ⟨number, rfl, ?_⟩
      rw [Settings.perform, changed]
      rfl
  | tracker number =>
      obtain ⟨trackers, -, rfl⟩ := Registry.map_eq_ok accepted
      exact .inl rfl

/-- New settings that a caller names a base for, and the object that they come to. -/
theorem deriveSettings_eq_ok {keywords : Keywords} {object : OptionObject}
    (made : session.deriveSettings keywords = .ok object) :
    ∃ base values, session.baseAndValues keywords = .ok (base, values) ∧
      session.settings.derived base values = .ok object := by
  obtain ⟨⟨base, values⟩, resolved, made⟩ := bind_eq_ok made
  exact ⟨base, values, resolved, made⟩

theorem isAsked_becomes {command : ObjectCommand} {result : Except Fault (Session × Reply)}
    (succeeds : ∀ changed reply, result = .ok (changed, reply) →
      session.IsAsked command changed.settings) :
    session.IsAsked command (session.becomes result).session.settings := by
  rcases session.becomes_cases result with ⟨fault, -, same⟩ | ⟨changed, reply, done, same⟩
  · rw [same]
    exact .inl rfl
  · rw [same]
    exact succeeds changed reply done

/-- The store behind a call about objects is the one before it, or the one behind what the call
asks for. -/
theorem isAsked_object (session : Session) (command : ObjectCommand) :
    session.IsAsked command (command.run session).session.settings := by
  cases command with
  | make shape slot positional keywords =>
      apply isAsked_becomes
      intro changed reply done
      obtain ⟨object, made, done⟩ := bind_eq_ok done
      cases done
      obtain ⟨values, resolved, made⟩ := bind_eq_ok made
      refine .inr ⟨_, .make resolved, ?_⟩
      rw [Settings.perform, made]
      rfl
  | makeSettings slot positional keywords =>
      apply isAsked_becomes
      intro changed reply done
      obtain ⟨object, made, done⟩ := bind_eq_ok done
      cases done
      obtain ⟨values, resolved, made⟩ := bind_eq_ok made
      refine .inr ⟨_, .makeSettings resolved, ?_⟩
      rw [Settings.perform, made]
      rfl
  | derive slot keywords =>
      apply isAsked_becomes
      intro changed reply done
      obtain ⟨object, made, done⟩ := bind_eq_ok done
      cases done
      obtain ⟨base, values, resolved, derived⟩ := deriveSettings_eq_ok made
      refine .inr ⟨_, .derive resolved, ?_⟩
      rw [Settings.perform, derived]
      rfl
  | updateDefaults keywords =>
      apply isAsked_becomes
      intro changed reply done
      obtain ⟨⟨base, values⟩, resolved, done⟩ := bind_eq_ok done
      obtain ⟨settings, updated, done⟩ := bind_eq_ok done
      cases done
      exact .inr ⟨_, .updateDefaults resolved, updated⟩
  | resetDefaults => exact .inr ⟨_, .resetDefaults, rfl⟩
  | assign slot name value =>
      apply isAsked_becomes
      intro changed reply done
      obtain ⟨held, isHeld, done⟩ := bind_eq_ok done
      obtain ⟨given, accepted, done⟩ := bind_eq_ok done
      obtain ⟨shown, -, done⟩ := bind_eq_ok done
      cases done
      rcases settings_giveHeld accepted with kept | ⟨number, rfl, assigned⟩
      · exact .inl kept
      · exact .inr ⟨_, .assign isHeld, assigned⟩
  | delete slot name =>
      apply isAsked_becomes
      intro changed reply done
      obtain ⟨held, isHeld, done⟩ := bind_eq_ok done
      obtain ⟨left, accepted, done⟩ := bind_eq_ok done
      cases done
      rcases settings_takeHeld accepted with kept | ⟨number, rfl, taken⟩
      · exact .inl kept
      · exact .inr ⟨_, .delete isHeld, taken⟩
  | holdDefaults | equal | literal | read | initial | label => exact .inl rfl

/-- The store behind a command is the one before it, or the one behind what the command asks
for. -/
theorem settings_perform (session : Session) (command : Command) :
    (session.perform command).session.settings = session.settings ∨
      ∃ asked operation, command = .object asked ∧ session.Asks asked operation ∧
        session.settings.perform operation = .ok (session.perform command).session.settings := by
  cases command with
  | object command =>
      rcases isAsked_object session command with same | ⟨operation, asks, done⟩
      · exact .inl same
      · exact .inr ⟨command, operation, rfl, asks, done⟩
  | registry command => exact .inl (settings_registryCommand session command)
  | source command => exact .inl (settings_sourceCommand session command)
  | warning command => exact .inl (settings_warningCommand session command)
  | level command => exact .inl (settings_levelCommand session command)
  | language command => exact .inl (settings_languageCommand session command)
  | inspection command =>
      exact .inl (congrArg Session.settings (settings_inspectionCommand session command))

/-! ### What calls are about -/

/-- What a caller names as a base, and can name as one, is settings. -/
theorem isBase_of_baseOf {keywords : Keywords} {base : Settings.Base}
    (named : session.baseOf keywords = .ok base) : session.settings.IsBase base := by
  unfold baseOf at named
  split at named
  · cases named
    trivial
  · cases named
    trivial
  · obtain ⟨held, -, named⟩ := bind_eq_ok named
    dsimp only at named
    split_ifs at named with isSettings
    · cases named
      cases held with
      | object number =>
          obtain ⟨object, found, shape⟩ := (Option.any_eq_true _ _).1 isSettings
          exact ⟨object, found, eq_of_beq shape⟩
      | _ => cases isSettings
    · cases named
      trivial

theorem isBase_of_baseAndValues {keywords : Keywords} {base : Settings.Base}
    {values : List (String × Value)}
    (resolved : session.baseAndValues keywords = .ok (base, values)) :
    session.settings.IsBase base := by
  obtain ⟨all, -, resolved⟩ := bind_eq_ok resolved
  obtain ⟨found, named, resolved⟩ := bind_eq_ok resolved
  cases resolved
  exact isBase_of_baseOf named

theorem hasBase_of_asks {command : ObjectCommand} {operation : Settings.Operation}
    (asks : session.Asks command operation) : operation.HasBase session.settings := by
  cases asks with
  | derive resolved => exact isBase_of_baseAndValues resolved
  | updateDefaults resolved => exact isBase_of_baseAndValues resolved
  | make | makeSettings | resetDefaults | assign | delete => trivial

theorem sparesPrivate_of_asks {command : ObjectCommand} {operation : Settings.Operation}
    (asks : session.Asks command operation) :
    operation.sparesPrivate = (Command.object command).sparesPrivate := by
  cases asks <;> rfl

theorem sparesReserved_of_asks {command : ObjectCommand} {operation : Settings.Operation}
    (asks : session.Asks command operation) :
    operation.sparesReserved = (Command.object command).sparesReserved := by
  cases asks <;> rfl

theorem changed?_of_asks {command : ObjectCommand} {operation : Settings.Operation}
    (asks : session.Asks command operation) :
    operation.changed? = session.changed? (.object command) := by
  cases asks with
  | assign held => simp only [changed?, held, Settings.Operation.changed?]
  | delete held => simp only [changed?, held, Settings.Operation.changed?]
  | make | makeSettings | derive | updateDefaults | resetDefaults => rfl

theorem installs_of_asks {command : ObjectCommand} {operation : Settings.Operation}
    (asks : session.Asks command operation) :
    operation.installs = (Command.object command).installs := by
  cases asks <;> rfl

/-! ### Usable settings -/

theorem isUsable_answer (usable : session.settings.IsUsable) {command : Command}
    (spares : command.sparesPrivate = true) :
    (session.answer command).1.settings.IsUsable := by
  refine Settings.IsUsable.of_isRedrawn ?_ (isRedrawn_refreshed _)
  rcases settings_perform session command with same | ⟨asked, operation, rfl, asks, done⟩
  · exact same ▸ usable
  · exact Settings.isUsable_perform usable ((sparesPrivate_of_asks asks).trans spares) done

theorem isUsable_answerAll (usable : session.settings.IsUsable) {commands : List Command}
    (spare : ∀ command ∈ commands, command.sparesPrivate = true) :
    (session.answerAll commands).1.settings.IsUsable := by
  induction commands generalizing session with
  | nil => exact usable
  | cons command rest inductionHypothesis =>
      rw [List.forall_mem_cons] at spare
      exact inductionHypothesis (isUsable_answer usable spare.1) spare.2

/-! ### Objects that know their options -/

theorem knowsOptions_answer (knowing : session.settings.KnowsOptions) {command : Command}
    (spares : command.sparesReserved = true) :
    (session.answer command).1.settings.KnowsOptions := by
  refine Settings.KnowsOptions.of_isRedrawn ?_ (isRedrawn_refreshed _)
  rcases settings_perform session command with same | ⟨asked, operation, rfl, asks, done⟩
  · exact same ▸ knowing
  · exact Settings.knowsOptions_perform knowing ((sparesReserved_of_asks asks).trans spares) done

theorem knowsOptions_answerAll (knowing : session.settings.KnowsOptions) {commands : List Command}
    (spare : ∀ command ∈ commands, command.sparesReserved = true) :
    (session.answerAll commands).1.settings.KnowsOptions := by
  induction commands generalizing session with
  | nil => exact knowing
  | cons command rest inductionHypothesis =>
      rw [List.forall_mem_cons] at spare
      exact inductionHypothesis (knowsOptions_answer knowing spare.1) spare.2

/-! ### Intact default settings -/

theorem isIntact_perform (intact : session.settings.IsIntact) {command : Command}
    (spared : session.changed? command ≠ some session.settings.defaults) :
    (session.perform command).session.settings.IsIntact := by
  rcases settings_perform session command with same | ⟨asked, operation, rfl, asks, done⟩
  · exact same ▸ intact
  · exact Settings.isIntact_perform intact (hasBase_of_asks asks)
      (changed?_of_asks asks ▸ spared) done

theorem isIntact_answer (intact : session.settings.IsIntact) {command : Command}
    (spared : session.changed? command ≠ some session.settings.defaults) :
    (session.answer command).1.settings.IsIntact :=
  (isIntact_perform intact spared).of_isRedrawn (isRedrawn_refreshed _)

theorem isIntact_answerAll (intact : session.settings.IsIntact) {commands : List Command}
    (spares : session.sparesDefaults commands = true) :
    (session.answerAll commands).1.settings.IsIntact := by
  induction commands generalizing session with
  | nil => exact intact
  | cons command rest inductionHypothesis =>
      simp only [sparesDefaults, Bool.and_eq_true, bne_iff_ne] at spares
      exact inductionHypothesis (isIntact_answer intact spares.1) spares.2

end Objects

end Session

end ProtectionLimits
