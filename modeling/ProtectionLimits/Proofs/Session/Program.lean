import ProtectionLimits.Proofs.CommandLine.Outcome
import ProtectionLimits.Proofs.Session.Settings

/-!
Contract: the listing program as it is run in a session.

Owns what a caller of the program gets to see, whatever was done in the session before. The
program reports what comes of the settings of its environment and nothing else: the default
settings of the session, its variables and the level of its log have no part in it.

Does not own arguments that are no switches of a listing, nor default settings that a caller has
changed without the calls about them.
-/

set_option autoImplicit false

namespace ProtectionLimits.Session

/-- Whether a session comes about by commands that leave alone the default settings of the time. -/
def IsReachableSparing (session : Session) : Prop :=
  ∃ level bindings commands, (start level bindings).sparesDefaults commands = true ∧
    ((start level bindings).answerAll commands).1 = session

theorem IsReachableSparing.isIntact {session : Session} (reachable : session.IsReachableSparing) :
    session.settings.IsIntact := by
  obtain ⟨level, bindings, commands, spares, rfl⟩ := reachable
  exact isIntact_answerAll Settings.isIntact_initial spares

/-- What a program run leaves behind, by how it ends. -/
theorem perform_program {session : Session} {arguments : List String}
    {bindings : List (String × String)} {outcome : CommandLine.Outcome}
    (untranslated : session.translation.isActive = false)
    (switches : ∀ argument ∈ arguments, argument = "-v" ∨ argument = "--secure")
    (ended : CommandLine.list .identity (Entries.ofList bindings) session.settings
      (CommandLine.listingOf arguments) = .ok outcome) :
    session.perform (.inspection (.program arguments bindings)) =
      ⟨session, .ok (.count outcome.status), [], [.streams outcome.output outcome.errors]⟩ := by
  simp only [perform, InspectionCommand.run, runProgram, CommandLine.run,
    CommandLine.request_of_switches switches,
    Translation.message_of_not_isActive untranslated, ended]

/-- The program ends with status one exactly if some limit has a setting in its environment that
is refused: the first that is not empty, of the variable that the property of the limit names
and the one of its former name. It then lists nothing, and the last line on the error stream
quotes the setting that is refused for the first such limit in the table, and the present name of
its property. Otherwise the program ends with status zero and lists all limits in order, one line
each: with the setting that is in the environment, or with the value that the switches decide. In
all lines the value ends in one column, and so the bracket behind it opens in one column. The
switches may stand in any order, and no defaults that were installed before count. -/
theorem program_reports_settings {session : Session} (reachable : session.IsReachableSparing)
    (untranslated : session.translation.isActive = false) (bindings : List (String × String))
    {arguments : List String}
    (switches : ∀ argument ∈ arguments, argument = "-v" ∨ argument = "--secure") :
    let environment := Entries.ofList bindings
    let effect := session.perform (.inspection (.program arguments bindings))
    effect.session = session ∧
    (effect.result = .ok (.count 1) ↔ ∃ standard, CommandLine.IsRefused environment standard) ∧
    ((∃ standard, CommandLine.IsRefused environment standard) →
      ∃ front standard rest setting reason logged,
        StandardLimit.all = front ++ standard :: rest ∧
        (∀ earlier ∈ front, ¬ CommandLine.IsRefused environment earlier) ∧
        CommandLine.IsRefused environment standard ∧
        CommandLine.setting? environment standard = some setting ∧
        reason ∈ ["not an integer", "out of range"] ∧
        '\n' ∉ (CommandLine.refusalText setting standard.entry.systemProperty reason).toList ∧
        effect.details = [.streams "" (Text.lines (logged ++
          ["error: " ++ CommandLine.refusalText setting standard.entry.systemProperty reason]))]) ∧
    ((¬ ∃ standard, CommandLine.IsRefused environment standard) →
      effect.result = .ok (.count 0) ∧
      ∃ lines logged column,
        effect.details = [.streams (Text.lines lines) (Text.lines logged)] ∧
        List.Forall₂
          (CommandLine.IsListedIn environment (arguments.contains "--secure") column)
          StandardLimit.all lines) := by
  have intact := reachable.isIntact
  dsimp only
  by_cases refused : ∃ standard, CommandLine.IsRefused (Entries.ofList bindings) standard
  · obtain ⟨front, standard, rest, setting, reason, logged, isAll, accepted, isRefused, isSetting,
      isReason, ended⟩ := CommandLine.list_of_refused intact (Entries.ofList bindings)
        (CommandLine.listingOf arguments) refused
    rw [perform_program untranslated switches ended]
    refine ⟨rfl, iff_of_true rfl refused, fun _ => ?_, fun unrefused => absurd refused unrefused⟩
    exact ⟨front, standard, rest, setting, reason, logged, isAll, accepted, isRefused, isSetting,
      isReason, CommandLine.lineBreak_not_mem_refusalText setting standard isReason, rfl⟩
  · obtain ⟨lines, logged, column, ended, listed⟩ := CommandLine.list_of_accepted intact
      (Entries.ofList bindings) (CommandLine.listingOf arguments) refused
    rw [perform_program untranslated switches ended]
    refine ⟨rfl, iff_of_false nofun refused, fun isRefused => absurd isRefused refused, fun _ => ?_⟩
    exact ⟨rfl, lines, logged, column, rfl, listed⟩

/-- Default settings were made secure before. One environment has an empty variable for a limit,
and no numeral in the one of its former name: the program says so. With nothing in the environment
it lists the values by default. -/
theorem program_reports_settings_malformed :
    ∃ session : Session, session.IsReachableSparing ∧
      (session.perform (.inspection (.program ["-v", "--secure", "-v"]
        [("XMLLIMITS_MAX_OCCUR_LIMIT", ""), ("MAX_OCCUR_LIMIT", "many")]))).result =
          .ok (.count 1) ∧
      (session.perform (.inspection (.program ["-v"] []))).result = .ok (.count 0) := by
  let commands : List Command :=
    [.object (.updateDefaults [("secure_processing", .value (.bool true))])]
  let session := ((start 30 []).answerAll commands).1
  let bindings : List (String × String) :=
    [("XMLLIMITS_MAX_OCCUR_LIMIT", ""), ("MAX_OCCUR_LIMIT", "many")]
  have reachable : session.IsReachableSparing := ⟨30, [], commands, by decide, rfl⟩
  have untranslated : session.translation.isActive = false := by decide +kernel
  have manySwitches : ∀ argument ∈ ["-v", "--secure", "-v"],
      argument = "-v" ∨ argument = "--secure" := by decide
  have oneSwitch : ∀ argument ∈ ["-v"], argument = "-v" ∨ argument = "--secure" := by decide
  obtain ⟨-, ends, -, -⟩ := program_reports_settings reachable untranslated bindings manySwitches
  obtain ⟨-, -, -, lists⟩ := program_reports_settings reachable untranslated [] oneSwitch
  refine ⟨session, reachable, ends.2 ⟨.maxOccur, "many", _, ?_, rfl⟩, (lists ?_).1⟩
  · decide +kernel
  · rintro ⟨standard, setting, fault, isSetting, -⟩
    have missing : CommandLine.setting? (Entries.ofList []) standard = none := by
      cases standard <;> decide +kernel
    rw [missing] at isSetting
    cases isSetting

end ProtectionLimits.Session
