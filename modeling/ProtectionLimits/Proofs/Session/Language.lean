import ProtectionLimits.Session.Transcript

/-!
Contract: commands that do the same in every language.

Owns which commands have nothing to say in the language in force, and that such a command
does to a session under one translation what it does under any other: it gives back the
same or fails for the same cause, writes the same entries, shows the same details, and
leaves the same session behind except for the translation, which stays what it was
(`perform_withTranslation`).

Does not own how failures are worded. A cause of failure holds nothing of its wording, so a
command is through before the first message is looked up.
-/

set_option autoImplicit false

namespace ProtectionLimits

/-- Whether a command has nothing to say in the language in force. The calls about the
language itself do, and so do the program and an option that is asked for its text. -/
def Command.isNeutral : Command → Bool
  | .language _ => false
  | .inspection (.program _ _) => false
  | .object (.label _ _) => false
  | _ => true

/-- What a call leaves behind, with another state of the translation. -/
def Effect.withTranslation (effect : Effect) (translation : Translation) : Effect :=
  { effect with session := effect.session.withTranslation translation }

namespace Session

variable (session : Session) (translation : Translation)

/-! ### Calls that change the session if they succeed -/

/-- What a call makes, with another state of the translation. -/
def carried (result : Except Fault (Session × Reply)) : Except Fault (Session × Reply) :=
  result.map fun made => (made.1.withTranslation translation, made.2)

/-- A step that does not look at the translation carries it along if what follows does. -/
theorem carried_bind {Found : Type} (first : Except Fault Found)
    {next changed : Found → Except Fault (Session × Reply)}
    (follows : ∀ found, changed found = carried translation (next found)) :
    (first >>= changed) = carried translation (first >>= next) := by
  cases first with
  | error fault => rfl
  | ok found => exact follows found

theorem becomes_of_carried {result changed : Except Fault (Session × Reply)}
    (agreement : changed = carried translation result) :
    (session.withTranslation translation).becomes changed =
      (session.becomes result).withTranslation translation := by
  rw [agreement]
  cases result with
  | error fault => rfl
  | ok made => rfl

/-! ### Registries and sources -/

theorem afterMaking_withTranslation (slot : String) (source : Option Held)
    (run : Log.Run Registry) :
    (session.withTranslation translation).afterMaking slot source run =
      (session.afterMaking slot source run).withTranslation translation := by
  unfold afterMaking
  cases run.result with
  | error fault => rfl
  | ok registry => rfl

theorem makeRegistry_withTranslation (slot : String) (arguments : RegistryArguments) :
    (session.withTranslation translation).makeRegistry slot arguments =
      (session.makeRegistry slot arguments).withTranslation translation := by
  have resolved : (session.withTranslation translation).resolveArguments arguments =
      session.resolveArguments arguments := rfl
  rw [makeRegistry, makeRegistry, resolved]
  cases session.resolveArguments arguments with
  | error fault => rfl
  | ok found => exact afterMaking_withTranslation session translation slot found.2 _

theorem makeRegistryFrom_withTranslation (settings slot : String)
    (arguments : RegistryArguments) :
    (session.withTranslation translation).makeRegistryFrom settings slot arguments =
      (session.makeRegistryFrom settings slot arguments).withTranslation translation := by
  have held : (session.withTranslation translation).heldUnder settings =
      session.heldUnder settings := rfl
  have resolved : (session.withTranslation translation).resolveRequest arguments =
      session.resolveRequest arguments := rfl
  have found : ∀ held, (session.withTranslation translation).settingsFor held =
      session.settingsFor held := fun _ => rfl
  simp only [makeRegistryFrom, held, resolved, found]
  split
  · rfl
  · split
    · rfl
    · rfl
    · rfl
    · exact afterMaking_withTranslation session translation slot _ _

theorem changeRegistry_withTranslation (number : Nat) (kept : KeptRegistry)
    (call : Registry.Call Target) :
    (session.withTranslation translation).changeRegistry number kept call =
      (session.changeRegistry number kept call).withTranslation translation := by
  simp only [changeRegistry, withTranslation]
  split <;> rfl

theorem refuseChange_withTranslation (held : Held) (call : Registry.Call Reference) :
    (session.withTranslation translation).refuseChange held call =
      (session.refuseChange held call).withTranslation translation := by
  have shown : (session.withTranslation translation).heldExhibit held =
      session.heldExhibit held := rfl
  rw [refuseChange, refuseChange, shown]
  split <;> rfl

theorem callRegistry_withTranslation (slot : String) (call : Registry.Call Reference) :
    (session.withTranslation translation).callRegistry slot call =
      (session.callRegistry slot call).withTranslation translation := by
  have held : (session.withTranslation translation).heldUnder slot = session.heldUnder slot := rfl
  have registries : (session.withTranslation translation).registries = session.registries := rfl
  simp only [callRegistry, held, registries]
  split
  · rfl
  · split
    · rfl
    · split
      · rfl
      · exact changeRegistry_withTranslation session translation _ _ _
  · exact refuseChange_withTranslation session translation _ call

theorem registryCommand_withTranslation (command : RegistryCommand) :
    command.run (session.withTranslation translation) =
      (command.run session).withTranslation translation := by
  cases command with
  | make slot arguments => exact makeRegistry_withTranslation session translation slot arguments
  | makeFrom settings slot arguments =>
      exact makeRegistryFrom_withTranslation session translation settings slot arguments
  | call slot call => exact callRegistry_withTranslation session translation slot call
  | ask slot query => rfl

theorem sourceCommand_withTranslation (command : SourceCommand) :
    command.run (session.withTranslation translation) =
      (command.run session).withTranslation translation := by
  cases command with
  | make slot argument =>
      apply becomes_of_carried
      refine carried_bind translation (session.resolveSource argument) ?_
      rintro ⟨source, _ | held⟩
      · exact carried_bind translation source.literal fun _ => rfl
      · exact carried_bind translation (session.heldLiteral held) fun _ => rfl
  | get slot name => rfl
  | makeAbstract => rfl

/-! ### Things with parts -/

theorem giveHeld_withTranslation (held : Held) (name : String) (value : Value) :
    (session.withTranslation translation).giveHeld held name value =
      (session.giveHeld held name value).map fun given => given.withTranslation translation := by
  cases held with
  | registry number =>
      simp only [giveHeld, withRegistry, withTranslation]
      split
      · rfl
      · rename_i kept _
        cases kept.form.give name value <;> rfl
  | source number =>
      simp only [giveHeld, withTranslation]
      cases changeAt session.sources number fun source => source.give name value <;> rfl
  | object number =>
      simp only [giveHeld, withTranslation]
      cases changeAt session.settings.objects number fun object => object.assign name value <;> rfl
  | tracker number =>
      simp only [giveHeld, withTranslation]
      cases changeAt session.trackers number fun tracker => tracker.give name value <;> rfl

theorem takeHeld_withTranslation (held : Held) (name : String) :
    (session.withTranslation translation).takeHeld held name =
      (session.takeHeld held name).map fun left => left.withTranslation translation := by
  cases held with
  | registry number =>
      simp only [takeHeld, withRegistry, withTranslation]
      split
      · rfl
      · rename_i kept _
        cases kept.form.take name <;> rfl
  | source number =>
      simp only [takeHeld, withTranslation]
      cases changeAt session.sources number fun source => source.take name <;> rfl
  | object number =>
      simp only [takeHeld, withTranslation]
      cases changeAt session.settings.objects number fun object => object.delete name <;> rfl
  | tracker number =>
      simp only [takeHeld, withTranslation]
      cases changeAt session.trackers number fun tracker => tracker.take name <;> rfl

/-! ### Objects with options -/

theorem objectCommand_withTranslation {command : ObjectCommand}
    (neutral : (Command.object command).isNeutral = true) :
    command.run (session.withTranslation translation) =
      (command.run session).withTranslation translation := by
  cases command with
  | make shape slot positional keywords =>
      apply becomes_of_carried
      exact carried_bind translation (session.makeObject shape positional keywords) fun _ => rfl
  | makeSettings slot positional keywords =>
      apply becomes_of_carried
      exact carried_bind translation (session.makeObject .settings positional keywords)
        fun _ => rfl
  | derive slot keywords =>
      apply becomes_of_carried
      exact carried_bind translation (session.deriveSettings keywords) fun _ => rfl
  | updateDefaults keywords =>
      apply becomes_of_carried
      refine carried_bind translation (session.baseAndValues keywords) fun found => ?_
      exact carried_bind translation (session.settings.updateDefaults found.1 found.2) fun _ => rfl
  | assign slot name value =>
      apply becomes_of_carried
      refine carried_bind translation (session.heldUnder slot) fun held => ?_
      rw [giveHeld_withTranslation]
      cases session.giveHeld held name value with
      | error fault => rfl
      | ok given => exact carried_bind translation (given.readHeld held name) fun _ => rfl
  | delete slot name =>
      apply becomes_of_carried
      refine carried_bind translation (session.heldUnder slot) fun held => ?_
      rw [takeHeld_withTranslation]
      cases session.takeHeld held name with
      | error fault => rfl
      | ok left => rfl
  | label shape name => cases neutral
  | resetDefaults | holdDefaults | equal | literal | read | initial => rfl

/-! ### Warnings -/

theorem afterPrinting_withTranslation (held : Held) (destination : Destination)
    (stored : String) (result : Except Fault Bool) :
    (session.withTranslation translation).afterPrinting held destination stored result =
      (session.afterPrinting held destination stored result).withTranslation translation := by
  have size : (session.withTranslation translation).sizeOf held = session.sizeOf held := rfl
  rw [afterPrinting, afterPrinting, size]
  split <;> rfl

theorem printWarning_withTranslation (held : Held) (parser property : Value)
    (complaint : Complaint) (destination : Destination) :
    (session.withTranslation translation).printWarning held parser property complaint
        destination =
      (session.printWarning held parser property complaint destination).withTranslation
        translation := by
  have trackers : (session.withTranslation translation).trackers = session.trackers := rfl
  simp only [printWarning, trackers]
  split
  · exact afterPrinting_withTranslation session translation _ _ _ _
  · split
    · exact afterPrinting_withTranslation session translation _ _ _ _
    · exact afterPrinting_withTranslation (session.replaceTracker _ _) translation _ _ _ _
  · exact afterPrinting_withTranslation session translation _ _ _ _

theorem warningCommand_withTranslation (command : WarningCommand) :
    command.run (session.withTranslation translation) =
      (command.run session).withTranslation translation := by
  cases command with
  | add tracker parser property =>
      apply becomes_of_carried
      refine carried_bind translation (session.trackerFor tracker "add_if_absent") fun found => ?_
      exact carried_bind translation (found.2.addIfAbsent parser property) fun _ => rfl
  | discard tracker parser property =>
      apply becomes_of_carried
      refine carried_bind translation (session.trackerFor tracker "discard") fun found => ?_
      exact carried_bind translation (found.2.discard parser property) fun _ => rfl
  | clear tracker =>
      apply becomes_of_carried
      refine carried_bind translation (session.trackerFor tracker "clear") fun found => ?_
      exact carried_bind translation found.2.clear fun _ => rfl
  | print tracker parser property complaint destination =>
      have held : (session.withTranslation translation).trackerUnder tracker =
          session.trackerUnder tracker := rfl
      simp only [WarningCommand.run, held]
      split
      · rfl
      · exact printWarning_withTranslation session translation _ _ _ _ _
  | make | size | has | literal => rfl

/-! ### Levels and inspection -/

theorem levelCommand_withTranslation (command : LevelCommand) :
    command.run (session.withTranslation translation) =
      (command.run session).withTranslation translation := by
  cases command with
  | setLevel level =>
      simp only [LevelCommand.run, setLevel]
      cases Log.levelOf level <;> rfl
  | levelOf | current | callWithin => rfl

theorem inspectionCommand_withTranslation {command : InspectionCommand}
    (neutral : (Command.inspection command).isNeutral = true) :
    command.run (session.withTranslation translation) =
      (command.run session).withTranslation translation := by
  cases command with
  | limit name =>
      simp only [InspectionCommand.run]
      cases standardLimit name <;> rfl
  | state number =>
      simp only [InspectionCommand.run]
      cases stateOf number <;> rfl
  | error made =>
      simp only [InspectionCommand.run, describeError]
      split <;> rfl
  | program arguments bindings => cases neutral
  | parse | constants | compareStates | formerName | programLevel => rfl

/-! ### All commands -/

/-- A neutral command does the same under every translation and leaves it in force. -/
theorem perform_withTranslation {command : Command} (neutral : command.isNeutral = true) :
    (session.withTranslation translation).perform command =
      (session.perform command).withTranslation translation := by
  cases command with
  | registry command => exact registryCommand_withTranslation session translation command
  | source command => exact sourceCommand_withTranslation session translation command
  | object command => exact objectCommand_withTranslation session translation neutral
  | warning command => exact warningCommand_withTranslation session translation command
  | level command => exact levelCommand_withTranslation session translation command
  | language command => cases neutral
  | inspection command => exact inspectionCommand_withTranslation session translation neutral

theorem refreshObject_withTranslation (number : Nat) :
    (session.withTranslation translation).refreshObject number =
      (session.refreshObject number).withTranslation translation := by
  have settings : (session.withTranslation translation).settings = session.settings := rfl
  rw [refreshObject, refreshObject, settings]
  split <;> rfl

theorem refreshRegistry_withTranslation (number : Nat) :
    (session.withTranslation translation).refreshRegistry number =
      (session.refreshRegistry number).withTranslation translation := by
  have registries : (session.withTranslation translation).registries = session.registries := rfl
  rw [refreshRegistry, refreshRegistry, registries]
  split <;> rfl

theorem foldl_withTranslation {Item : Type} {step : Session → Item → Session}
    (carries : ∀ (session : Session) (item : Item),
      step (session.withTranslation translation) item =
        (step session item).withTranslation translation)
    (items : List Item) :
    items.foldl step (session.withTranslation translation) =
      (items.foldl step session).withTranslation translation := by
  induction items generalizing session with
  | nil => rfl
  | cons item rest inductionHypothesis =>
      rw [List.foldl_cons, List.foldl_cons, carries, inductionHypothesis]

theorem refreshed_withTranslation :
    (session.withTranslation translation).refreshed =
      session.refreshed.withTranslation translation := by
  have objects :
      (List.range session.settings.objects.length).foldl refreshObject
          (session.withTranslation translation) =
        ((List.range session.settings.objects.length).foldl refreshObject
          session).withTranslation translation :=
    foldl_withTranslation session translation
      (fun session number => refreshObject_withTranslation session translation number) _
  simp only [refreshed, withTranslation] at objects ⊢
  rw [objects]
  exact foldl_withTranslation _ translation
    (fun session number => refreshRegistry_withTranslation session translation number) _

end Session

end ProtectionLimits
