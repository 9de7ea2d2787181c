import ProtectionLimits.Proofs.Log.Scope
import ProtectionLimits.Proofs.Registry.Making
import ProtectionLimits.Session.Transcript

/-!
Contract: calls of a session that run in the scope of a level.

Owns what a caller sees of such a call. A call that asks for a level leaves the session as it
was, however its body ends and whether or not there is such a level; one that asks for none
is its body. Making a registry is such a call too: which registry comes of it, and what is
then held, does not hang on the level that is asked for.
-/

set_option autoImplicit false

namespace ProtectionLimits.Session

/-- What a call within a scope leaves behind, by what comes of its request for a level. -/
theorem perform_callWithin (session : Session) (call : ScopedCall) :
    session.perform (.level (.callWithin call)) =
      match Log.requested? (ScopedCall.requested call.keywords) with
      | .error fault => ⟨session, .error fault, [], [.level session.level]⟩
      | .ok none =>
          let run := Log.runAll call.body session.level
          ⟨{ session with level := run.level }, run.result.map fun _ => call.reply, run.entries,
            [.level run.level]⟩
      | .ok (some chosen) =>
          let run := Log.runAll call.body chosen
          ⟨session, run.result.map fun _ => call.reply, run.entries, [.level session.level]⟩ := by
  simp only [perform, LevelCommand.run, runScoped, ScopedCall.run, Log.withLevel_eq,
    withLevelDetail]
  cases Log.requested? (ScopedCall.requested call.keywords) with
  | error fault => rfl
  | ok asked => cases asked <;> rfl

def RegistryArguments.askingFor (arguments : RegistryArguments) (level : Option Value) :
    RegistryArguments :=
  { arguments with level := level }

/-- What is asked of the values and the level has no part in what the other arguments come to. -/
theorem resolveArguments_with (session : Session) (arguments : RegistryArguments)
    (secure level : Option Value) :
    session.resolveArguments { arguments with secure := secure, level := level } =
      (session.resolveArguments arguments).map fun found =>
        ({ found.1 with secure := secure.getD (.bool false), level := level.getD .absent },
          found.2) := by
  simp only [resolveArguments, bind, Except.bind, pure, Except.pure]
  cases session.resolveSource arguments.source with
  | error fault => rfl
  | ok source => cases resolveTable arguments.table <;> rfl

/-- A registry that is made at a level that can be asked for is the one that is made without
asking, and what is held behind it is the same. Only entries may differ. -/
theorem perform_make_askingFor (session : Session) (slot : String)
    (arguments : RegistryArguments) {asked : Value} (valid : Registry.IsLevelRequest asked) :
    ∃ entries,
      session.perform (.registry (.make slot (arguments.askingFor (some asked)))) =
        { session.perform (.registry (.make slot (arguments.askingFor none))) with
          entries := entries } := by
  have resolved (level : Option Value) := session.resolveArguments_with arguments
    arguments.secure level
  simp only [perform, RegistryCommand.run, makeRegistry, RegistryArguments.askingFor]
  rw [resolved (some asked), resolved none]
  cases session.resolveArguments arguments with
  | error fault => exact ⟨[], rfl⟩
  | ok found =>
      obtain ⟨found, source⟩ := found
      let creation := { found with secure := arguments.secure.getD (.bool false) }
      have atLevel := Registry.result_create_of_isLevelRequest
        { creation with level := asked } valid session.level
      have unasked := Registry.result_create_of_isLevelRequest
        { creation with level := .absent } (.inl rfl) session.level
      have same : ({ creation with level := asked } : Registry.Creation).outcome =
          ({ creation with level := .absent } : Registry.Creation).outcome := rfl
      dsimp only [creation] at atLevel unasked same
      simp only [Except.map, Option.getD_some, Option.getD_none, afterMaking, atLevel, unasked,
        same, Registry.level_create]
      cases Registry.Creation.outcome _ with
      | error fault => exact ⟨_, rfl⟩
      | ok registry => exact ⟨_, rfl⟩

/-- Making a registry leaves the level of the log as it was. -/
theorem level_make (session : Session) (slot : String) (arguments : RegistryArguments) :
    (session.perform (.registry (.make slot arguments))).session.level = session.level := by
  simp only [perform, RegistryCommand.run, makeRegistry]
  cases session.resolveArguments arguments with
  | error fault => rfl
  | ok found =>
      simp only [afterMaking, Registry.level_create]
      cases (Registry.create found.1 session.level).result <;> rfl

/-- Making a registry within a scope comes to what it comes to without, and leaves the level. -/
theorem make_askingFor_agrees (session : Session) (slot : String)
    (arguments : RegistryArguments) {asked : Value} (valid : Registry.IsLevelRequest asked) :
    let inScope := session.perform (.registry (.make slot (arguments.askingFor (some asked))))
    let unscoped := session.perform (.registry (.make slot (arguments.askingFor none)))
    inScope.session = unscoped.session ∧ inScope.result = unscoped.result ∧
      inScope.details = unscoped.details ∧ inScope.session.level = session.level := by
  obtain ⟨entries, same⟩ := perform_make_askingFor session slot arguments valid
  dsimp only
  refine ⟨?_, ?_, ?_, level_make session slot _⟩
  · rw [same]
  · rw [same]
  · rw [same]

section Within

variable (session : Session) {call : ScopedCall}

/-- Behind a call that asks for a level the session is as it was. -/
theorem session_callWithin_of_asked (asked : ScopedCall.requested call.keywords ≠ .absent) :
    (session.perform (.level (.callWithin call))).session = session := by
  rw [perform_callWithin]
  cases named : Log.levelOf (ScopedCall.requested call.keywords) with
  | error fault => rw [Log.requested?_of_refused asked named]
  | ok chosen => rw [Log.requested?_of_levelOf named]

/-- A call that asks for a level that there is not ends before its body, whatever that is. -/
theorem perform_callWithin_of_refused {fault : Fault}
    (asked : ScopedCall.requested call.keywords ≠ .absent)
    (refused : Log.levelOf (ScopedCall.requested call.keywords) = .error fault)
    (body : List Log.Statement) :
    session.perform (.level (.callWithin { call with body := body })) =
      ⟨session, .error fault, [], [.level session.level]⟩ := by
  have stillRefused :
      Log.requested? (ScopedCall.requested ({ call with body := body } : ScopedCall).keywords) =
        .error fault := Log.requested?_of_refused asked refused
  rw [perform_callWithin, stillRefused]

/-- A call at a level runs its body from that level on. -/
theorem perform_callWithin_of_levelOf {chosen : Int}
    (isLevel : Log.levelOf (ScopedCall.requested call.keywords) = .ok chosen) :
    (session.perform (.level (.callWithin call))).entries =
      (Log.runAll call.body chosen).entries ∧
    (session.perform (.level (.callWithin call))).result =
      (Log.runAll call.body chosen).result.map fun _ => call.reply := by
  rw [perform_callWithin, Log.requested?_of_levelOf isLevel]
  exact ⟨rfl, rfl⟩

/-- A call that asks for no level is its body. -/
theorem perform_callWithin_of_unasked
    (unasked : ScopedCall.requested call.keywords = .absent) :
    (session.perform (.level (.callWithin call))).session =
      { session with level := (Log.runAll call.body session.level).level } ∧
    (session.perform (.level (.callWithin call))).entries =
      (Log.runAll call.body session.level).entries ∧
    (session.perform (.level (.callWithin call))).result =
      (Log.runAll call.body session.level).result.map fun _ => call.reply := by
  rw [perform_callWithin, unasked]
  exact ⟨rfl, rfl, rfl⟩

end Within

/-- A level that a call asks for holds for the call and no longer. If there is none of the
name, the body is not run: whatever it is, nothing is written and nothing changes. If there
is, the body begins at it, and behind the call the session is as it was, however the body
ended. A call that asks for no level is its body, and what that leaves in force stays. In
every program the level left in force is the last that was set outside of the calls that ask
for one, so calls in a scope may be nested as deep as one likes; each entry comes through by
the level in force where it is written, and the level has no part in how the program ends.
Making a registry within a scope comes to what it comes to without. -/
theorem level_scoped_to_call (session : Session) (call : ScopedCall) :
    (ScopedCall.requested call.keywords ≠ .absent →
      (session.perform (.level (.callWithin call))).session = session) ∧
    (∀ fault, ScopedCall.requested call.keywords ≠ .absent →
      Log.levelOf (ScopedCall.requested call.keywords) = .error fault →
      ∀ body, session.perform (.level (.callWithin { call with body := body })) =
        ⟨session, .error fault, [], [.level session.level]⟩) ∧
    (∀ chosen, Log.levelOf (ScopedCall.requested call.keywords) = .ok chosen →
      (session.perform (.level (.callWithin call))).entries =
        (Log.runAll call.body chosen).entries ∧
      (session.perform (.level (.callWithin call))).result =
        (Log.runAll call.body chosen).result.map fun _ => call.reply) ∧
    (ScopedCall.requested call.keywords = .absent →
      (session.perform (.level (.callWithin call))).session =
        { session with level := (Log.runAll call.body session.level).level } ∧
      (session.perform (.level (.callWithin call))).entries =
        (Log.runAll call.body session.level).entries ∧
      (session.perform (.level (.callWithin call))).result =
        (Log.runAll call.body session.level).result.map fun _ => call.reply) ∧
    (∀ program level,
      (Log.runAll program level).level = (Log.leftAll? program).getD level ∧
      (Log.runAll program level).entries = Log.passed (Log.attemptsAll program level) ∧
      (Log.runAll program level).result = Log.outcomeAll program) ∧
    (∀ requested body guarded level, requested ≠ .absent →
      (Log.Statement.run (.call requested body guarded) level).level = level) ∧
    (∀ slot (arguments : RegistryArguments) asked chosen, Log.levelOf asked = .ok chosen →
      let inScope := session.perform (.registry (.make slot (arguments.askingFor (some asked))))
      let unscoped := session.perform (.registry (.make slot (arguments.askingFor none)))
      inScope.session = unscoped.session ∧ inScope.result = unscoped.result ∧
        inScope.details = unscoped.details ∧ inScope.session.level = session.level) := by
  refine ⟨session.session_callWithin_of_asked,
    fun _ asked refused body => session.perform_callWithin_of_refused asked refused body,
    fun _ isLevel => session.perform_callWithin_of_levelOf isLevel,
    session.perform_callWithin_of_unasked, ?_,
    fun _ body guarded level asked => Log.level_call body guarded level asked,
    fun slot arguments _ chosen isLevel =>
      make_askingFor_agrees session slot arguments (.inr ⟨chosen, isLevel⟩)⟩
  intro program level
  rw [Log.runAll_eq]
  exact ⟨rfl, rfl, rfl⟩

/-- An error that ends a nested scope ends the outer one as well, a nested scope without a level
does not begin, and behind all of it the level is the first one again. Without a level asked
for, the same body leaves the level that it set last itself. -/
theorem level_scoped_to_call_nested :
    ∃ call bare misnamed : ScopedCall,
      ScopedCall.requested call.keywords = .text " Warn " ∧
      ScopedCall.requested bare.keywords = .absent ∧
      ScopedCall.requested misnamed.keywords = .text "loud" ∧
      bare.body = call.body ∧ misnamed.body = call.body ∧
      ((start 10 []).perform (.level (.callWithin call))).session = start 10 [] ∧
      ((start 10 []).perform (.level (.callWithin call))).entries = [⟨.critical, "nested"⟩] ∧
      ((start 10 []).perform (.level (.callWithin bare))).session.level = 20 ∧
      ((start 10 []).perform (.level (.callWithin bare))).entries =
        [⟨.info, "first"⟩, ⟨.critical, "nested"⟩] ∧
      (start 10 []).perform (.level (.callWithin misnamed)) =
        ⟨start 10 [], .error (.levelName "loud"), [], [.level 10]⟩ ∧
      ((start 10 []).perform (.registry (.make "r"
          (RegistryArguments.askingFor ⟨none, none, .absent, .process, .standard, []⟩
            (some (.int 50)))))).session.level = 10 := by
  let body : List Log.Statement :=
    [.write .info "first", .setLevel (.int 20), .call (.text "loud") [.setLevel (.int 1)] true,
      .call (.text "error") [.setLevel (.int 45), .write .critical "nested", .write .error "kept",
        .fail ⟨"ValueError", []⟩] false,
      .setLevel (.int 30)]
  let call : ScopedCall := ⟨[], [("loglevel", .text " Warn ")], body⟩
  let bare : ScopedCall := ⟨[], [], body⟩
  let misnamed : ScopedCall := ⟨[], [("loglevel", .text "loud")], body⟩
  obtain ⟨restored, -, begins, -, -, -, makes⟩ := level_scoped_to_call (start 10 []) call
  obtain ⟨-, -, -, persists, -, -, -⟩ := level_scoped_to_call (start 10 []) bare
  obtain ⟨-, refuses, -, -, -, -, -⟩ := level_scoped_to_call (start 10 []) misnamed
  have asked : ScopedCall.requested call.keywords ≠ .absent := by
    have named : ScopedCall.requested call.keywords = .text " Warn " := rfl
    rw [named]
    exact nofun
  have persisted := persists rfl
  refine ⟨call, bare, misnamed, rfl, rfl, rfl, rfl, rfl, restored asked, ?_, ?_, ?_, ?_, ?_⟩
  · rw [(begins 30 rfl).1]
    rfl
  · rw [persisted.1]
    rfl
  · rw [persisted.2.1]
    rfl
  · exact refuses (.levelName "loud") nofun rfl body
  · exact (makes "r" ⟨none, none, .absent, .process, .standard, []⟩ (.int 50) 50 rfl).2.2.2

end ProtectionLimits.Session
