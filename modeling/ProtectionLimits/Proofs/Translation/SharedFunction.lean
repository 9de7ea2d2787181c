import ProtectionLimits.Proofs.Fault.Untranslated
import ProtectionLimits.Proofs.Session.Language

/-!
Contract: the shared function and the translation in force.

Owns what can be done to the translation, which of that each command does, and what stays
true of the translation through everything that is done in a session: installed is only what
is active, and if the shared function is a translation of ours, it is the active one and is
marked as installed. So a translation that was replaced or deactivated is not left behind as
the shared function, and a function of another program is never taken away.

Owns also how long an installation holds: until the next command that does something to the
translation, messages and the shared function say the same.

Does not own which catalogs an activation finds, nor what they say.
-/

set_option autoImplicit false

namespace ProtectionLimits

namespace Translation

/-- What can be done to the translation: an activation, a deactivation, or another program
that puts a function of its own in the place of the shared one. -/
inductive Operation where
  | activate (request : Request)
  | deactivate
  | replaceShared (lead : String)

def after (translation : Translation) : Operation → Translation
  | .activate request => (translation.activate request).toOption.getD translation
  | .deactivate => translation.deactivate
  | .replaceShared lead => translation.replaceShared lead

/-- What is true of the translation whatever was done to it. -/
structure IsConsistent (translation : Translation) : Prop where
  isActive : translation.isInstalled = true → translation.isActive = true
  active : ∀ active, translation.shared = some (.installed active) →
    translation.active = some active
  isInstalled : ∀ active, translation.shared = some (.installed active) →
    translation.isInstalled = true
  number_lt : ∀ active, translation.active = some active → active.number < translation.next

theorem isConsistent_initial : initial.IsConsistent where
  isActive installed := by cases installed
  active _ shared := by cases shared
  isInstalled _ shared := by cases shared
  number_lt _ active := by cases active

/-! ### Operations -/

section Operations

variable {translation : Translation}

/-- An activation that succeeds starts a translation with some catalogs. -/
theorem exists_start_of_activate {request : Request} {started : Translation}
    (activated : translation.activate request = .ok started) :
    ∃ catalogs, started = translation.start request.edition catalogs request.install := by
  unfold activate at activated
  split at activated
  · split at activated
    · cases activated
      exact ⟨[], rfl⟩
    · cases activated
  · obtain ⟨catalogs, -, rfl⟩ := Registry.map_eq_ok activated
    exact ⟨catalogs, rfl⟩

/-- A translation is not the shared function of a deactivated one: what is withdrawn is all
that could have been it. -/
theorem shared_deactivate_ne (consistent : translation.IsConsistent) (active : Active) :
    translation.deactivate.shared ≠ some (.installed active) := by
  intro left
  rw [deactivate] at left
  split at left
  case isTrue => cases left
  case isFalse notHeld =>
      change translation.shared = some (.installed active) at left
      apply notHeld
      rw [holdsShared, consistent.active active left]
      simp only [consistent.isInstalled active left, left, BEq.rfl, Bool.and_self]

/-- A function of another program is not what a deactivation withdraws. -/
theorem shared_deactivate_of_foreign {lead : String}
    (foreign : translation.shared = some (.foreign lead)) :
    translation.deactivate.shared = some (.foreign lead) := by
  have notHeld : translation.holdsShared = false := by
    rw [holdsShared, foreign]
    cases translation.active with
    | none => rfl
    | some active => exact Bool.and_false translation.isInstalled
  simp only [deactivate, notHeld, foreign, Bool.false_eq_true, if_false]

theorem isConsistent_deactivate (consistent : translation.IsConsistent) :
    translation.deactivate.IsConsistent where
  isActive installed := by cases installed
  active active shared := absurd shared (shared_deactivate_ne consistent active)
  isInstalled active shared := absurd shared (shared_deactivate_ne consistent active)
  number_lt _ active := by cases active

/-- Whatever was the shared function, behind a start it is the new translation if that is to
be installed, and nothing of ours otherwise. -/
theorem isConsistent_start (consistent : translation.IsConsistent) (edition : Edition)
    (catalogs : List Catalog) (install : Bool) :
    (translation.start edition catalogs install).IsConsistent where
  isActive _ := rfl
  active active shared := by
    cases install with
    | true =>
        cases shared
        rfl
    | false => exact absurd shared (shared_deactivate_ne consistent active)
  isInstalled active shared := by
    cases install with
    | true => rfl
    | false => exact absurd shared (shared_deactivate_ne consistent active)
  number_lt active isActive := by
    cases isActive
    exact Nat.lt_succ_self translation.next

theorem isConsistent_replaceShared (consistent : translation.IsConsistent) (lead : String) :
    (translation.replaceShared lead).IsConsistent where
  isActive := consistent.isActive
  active _ shared := by cases shared
  isInstalled _ shared := by cases shared
  number_lt := consistent.number_lt

/-- No operation breaks consistency, whether or not it succeeds. -/
theorem isConsistent_after (consistent : translation.IsConsistent) (operation : Operation) :
    (translation.after operation).IsConsistent := by
  cases operation with
  | activate request =>
      rw [after]
      cases activated : translation.activate request with
      | error fault => exact consistent
      | ok started =>
          obtain ⟨catalogs, rfl⟩ := exists_start_of_activate activated
          exact isConsistent_start consistent request.edition catalogs request.install
  | deactivate => exact isConsistent_deactivate consistent
  | replaceShared lead => exact isConsistent_replaceShared consistent lead

/-! ### Translations that were replaced -/

/-- Whether a translation that was active is so no more. Numbers are not given twice. -/
structure IsRetired (translation : Translation) (old : Active) : Prop where
  number_lt : old.number < translation.next
  active_ne : translation.active ≠ some old

theorem isRetired_start {old : Active} (known : old.number < translation.next)
    (edition : Edition) (catalogs : List Catalog) (install : Bool) :
    (translation.start edition catalogs install).IsRetired old where
  number_lt := Nat.lt_succ_of_lt known
  active_ne same := by
    cases same
    exact Nat.lt_irrefl _ known

theorem isRetired_after {old : Active} (retired : translation.IsRetired old)
    (operation : Operation) : (translation.after operation).IsRetired old := by
  cases operation with
  | activate request =>
      rw [after]
      cases activated : translation.activate request with
      | error fault => exact retired
      | ok started =>
          obtain ⟨catalogs, rfl⟩ := exists_start_of_activate activated
          exact isRetired_start retired.number_lt request.edition catalogs request.install
  | deactivate => exact ⟨retired.number_lt, fun same => by cases same⟩
  | replaceShared lead => exact ⟨retired.number_lt, retired.active_ne⟩

/-- What was retired is not the shared function. -/
theorem shared_ne_of_isRetired (consistent : translation.IsConsistent) {old : Active}
    (retired : translation.IsRetired old) : translation.shared ≠ some (.installed old) :=
  fun shared => retired.active_ne (consistent.active old shared)

end Operations

end Translation

def Command.operation? : Command → Option Translation.Operation
  | .language (.activate request) => some (.activate request)
  | .language .deactivate => some .deactivate
  | .language (.shared _ (some lead)) => some (.replaceShared lead)
  | _ => none

namespace Session

/-! ### Commands -/

theorem translation_refreshed (session : Session) :
    session.refreshed.translation = session.translation := by
  have same := refreshed_withTranslation session session.translation
  calc session.refreshed.translation
      = (session.refreshed.withTranslation session.translation).translation :=
        congrArg Session.translation same
    _ = session.translation := rfl

/-- A neutral command leaves the translation alone. -/
theorem translation_perform_of_neutral (session : Session) {command : Command}
    (neutral : command.isNeutral = true) :
    (session.perform command).session.translation = session.translation := by
  have same := perform_withTranslation session session.translation neutral
  calc (session.perform command).session.translation
      = ((session.perform command).withTranslation session.translation).session.translation :=
        congrArg (fun effect => effect.session.translation) same
    _ = session.translation := rfl

/-- The translation behind a command is the one behind its operation. -/
theorem translation_perform (session : Session) (command : Command) :
    (session.perform command).session.translation =
      (command.operation?.map session.translation.after).getD session.translation := by
  by_cases neutral : command.isNeutral = true
  · rw [translation_perform_of_neutral session neutral]
    cases command with
    | language command => cases neutral
    | _ => rfl
  · cases command with
    | language command =>
        cases command with
        | activate request =>
            simp only [perform, LanguageCommand.run, Command.operation?, Option.map_some,
              Option.getD_some, Translation.after]
            cases session.translation.activate request with
            | error fault => rfl
            | ok started => rfl
        | shared text replacement => cases replacement <;> rfl
        | deactivate | isActive | message => rfl
    | inspection command =>
        cases command with
        | program arguments bindings =>
            simp only [perform, InspectionCommand.run, runProgram]
            split <;> rfl
        | _ => exact absurd rfl neutral
    | object command =>
        cases command with
        | label shape name => rfl
        | _ => exact absurd rfl neutral
    | _ => exact absurd rfl neutral

theorem translation_answer (session : Session) (command : Command) :
    (session.answer command).1.translation =
      (command.operation?.map session.translation.after).getD session.translation := by
  rw [← translation_perform]
  exact translation_refreshed _

/-! ### Runs -/

/-- What every operation preserves is preserved by every run. -/
theorem preserved_answerAll (Holds : Translation → Prop)
    (step : ∀ translation operation, Holds translation → Holds (translation.after operation))
    {session : Session} (holds : Holds session.translation) (commands : List Command) :
    Holds (session.answerAll commands).1.translation := by
  induction commands generalizing session with
  | nil => exact holds
  | cons command rest inductionHypothesis =>
      have behind : Holds (session.answer command).1.translation := by
        rw [translation_answer]
        cases command.operation? with
        | none => exact holds
        | some operation => exact step session.translation operation holds
      exact inductionHypothesis behind

theorem isConsistent_answerAll {session : Session}
    (consistent : session.translation.IsConsistent) (commands : List Command) :
    (session.answerAll commands).1.translation.IsConsistent :=
  preserved_answerAll Translation.IsConsistent
    (fun _ operation holds => Translation.isConsistent_after holds operation) consistent commands

theorem isRetired_answerAll {session : Session} {old : Translation.Active}
    (retired : session.translation.IsRetired old) (commands : List Command) :
    (session.answerAll commands).1.translation.IsRetired old :=
  preserved_answerAll (fun translation => translation.IsRetired old)
    (fun _ operation holds => Translation.isRetired_after holds operation) retired commands

/-- Commands that do nothing to the translation leave it as it was, however many there are. -/
theorem translation_answerAll_of_none {commands : List Command}
    (idle : ∀ command ∈ commands, command.operation? = none) (session : Session) :
    (session.answerAll commands).1.translation = session.translation := by
  induction commands generalizing session with
  | nil => rfl
  | cons command rest inductionHypothesis =>
      rw [List.forall_mem_cons] at idle
      rw [answerAll]
      refine (inductionHypothesis idle.2 _).trans ?_
      rw [translation_answer, idle.1]
      rfl

/-- Whether a session comes about by commands. -/
def IsReachable (session : Session) : Prop :=
  ∃ level bindings commands, ((start level bindings).answerAll commands).1 = session

theorem isConsistent_of_isReachable {session : Session} (reachable : session.IsReachable) :
    session.translation.IsConsistent := by
  obtain ⟨level, bindings, commands, rfl⟩ := reachable
  exact isConsistent_answerAll Translation.isConsistent_initial commands

/-! ### Activating -/

section Activating

variable {session : Session} {request : Translation.Request}

theorem translation_of_refused {report : Fault.Report}
    (refused : (session.answer (.language (.activate request))).2.outcome = .error report) :
    (session.answer (.language (.activate request))).1.translation = session.translation := by
  rw [translation_answer]
  simp only [Command.operation?, Option.map_some, Option.getD_some, Translation.after]
  cases activated : session.translation.activate request with
  | error fault => rfl
  | ok started =>
      simp only [answer, perform, LanguageCommand.run, activated] at refused
      cases refused

theorem exists_start_of_accepted {reply : Reply}
    (accepted : (session.answer (.language (.activate request))).2.outcome = .ok reply) :
    ∃ catalogs, (session.answer (.language (.activate request))).1.translation =
      session.translation.start request.edition catalogs request.install := by
  rw [translation_answer]
  simp only [Command.operation?, Option.map_some, Option.getD_some, Translation.after]
  cases activated : session.translation.activate request with
  | error fault =>
      simp only [answer, perform, LanguageCommand.run, activated] at accepted
      cases accepted
  | ok started => exact Translation.exists_start_of_activate activated

end Activating

/-! ### Asking -/

theorem message?_messages (catalog : Catalog) (text : String) :
    catalog.message? .messages text = .ok (catalog.messages.lookup text) := by
  unfold Catalog.message?
  cases catalog.messages.lookup text <;> rfl

/-- The earlier edition of the library finds something for every message. -/
theorem exists_message_of_start (translation : Translation) (catalogs : List Catalog)
    (install : Bool) (text : String) :
    ∃ said, (translation.start .messages catalogs install).message text = .ok said := by
  change ∃ said, Translation.translated .messages catalogs text = .ok said
  induction catalogs with
  | nil => exact ⟨text, rfl⟩
  | cons catalog rest inductionHypothesis =>
      rw [Translation.translated, message?_messages]
      cases catalog.messages.lookup text with
      | some said => exact ⟨said, rfl⟩
      | none => exact inductionHypothesis

theorem outcome_message (session : Session) (text : String) :
    (session.answer (.language (.message text))).2.outcome =
      ((session.translation.message text).mapError Unwritable.report).map .text := by
  simp only [answer, perform, LanguageCommand.run, gives]
  cases session.translation.message text <;> rfl

/-- A shared function that is there answers with what it says, or fails as it does. -/
theorem outcome_shared {session : Session} {text : String} {said : Written}
    (isSaid : session.translation.sharedMessage? text = some said) :
    (session.answer (.language (.shared text none))).2.outcome =
      (said.mapError Unwritable.report).map fun found => .optionalText (some found) := by
  have reply : sharedReply session.translation text =
      (said.mapError .unwritable).map fun found => .optionalText (some found) := by
    rw [sharedReply, isSaid]
  simp only [answer, perform, LanguageCommand.run, gives, reply]
  cases said <;> rfl

/-! ### What holds in every session -/

section Reachable

variable {session : Session} (reachable : session.IsReachable)

include reachable

/-- A translation that is deactivated or replaced is never the shared function again. -/
theorem shared_ne_of_replaced {old : Translation.Active}
    (active : session.translation.active = some old) {command : Command}
    (replaces : command = .language .deactivate ∨ ∃ request reply,
      command = .language (.activate request) ∧ (session.answer command).2.outcome = .ok reply)
    (others : List Command) :
    ((session.answer command).1.answerAll others).1.translation.shared ≠
      some (.installed old) := by
  have consistent := isConsistent_of_isReachable reachable
  have known := consistent.number_lt old active
  have retired : (session.answer command).1.translation.IsRetired old := by
    rcases replaces with rfl | ⟨request, reply, rfl, accepted⟩
    · rw [translation_answer]
      exact ⟨known, fun same => by cases same⟩
    · obtain ⟨catalogs, started⟩ := exists_start_of_accepted accepted
      rw [started]
      exact Translation.isRetired_start known request.edition catalogs request.install
  have behind : (session.answer command).1.translation.IsConsistent :=
    isConsistent_answerAll consistent [command]
  exact Translation.shared_ne_of_isRetired (isConsistent_answerAll behind others)
    (isRetired_answerAll retired others)

omit reachable

/-- The function of another program stays where nothing is to be installed. -/
theorem shared_of_foreign {lead : String}
    (foreign : session.translation.shared = some (.foreign lead)) :
    (session.answer (.language .deactivate)).1.translation.shared = some (.foreign lead) ∧
      ∀ request, request.install = false →
        (session.answer (.language (.activate request))).1.translation.shared =
          some (.foreign lead) := by
  have kept := Translation.shared_deactivate_of_foreign foreign
  refine ⟨?_, ?_⟩
  · rw [translation_answer]
    exact kept
  · intro request notInstalled
    cases outcome : (session.answer (.language (.activate request))).2.outcome with
    | error report => rw [translation_of_refused outcome, foreign]
    | ok reply =>
        obtain ⟨catalogs, started⟩ := exists_start_of_accepted outcome
        rw [started, notInstalled]
        exact kept

section Idle

variable {others : List Command} (idle : ∀ command ∈ others, command.operation? = none)

include idle

/-- Behind a deactivation messages say themselves. -/
theorem message_of_deactivated (session : Session) (text : String) :
    (((session.answer (.language .deactivate)).1.answerAll others).1.answer
      (.language (.message text))).2.outcome = .ok (.text text) := by
  have inactive : ((session.answer (.language .deactivate)).1.answerAll others).1.translation =
      session.translation.deactivate := by
    rw [translation_answerAll_of_none idle, translation_answer]
    rfl
  rw [outcome_message, inactive, Translation.message_deactivate]
  rfl

/-- Behind an installation the shared function says what messages say. -/
theorem shared_says_message {request : Translation.Request} {reply : Reply}
    (installs : request.install = true)
    (accepted : (session.answer (.language (.activate request))).2.outcome = .ok reply)
    (text : String) :
    ∃ said : Written, (request.edition = .messages → ∃ found, said = .ok found) ∧
      (((session.answer (.language (.activate request))).1.answerAll others).1.answer
        (.language (.message text))).2.outcome = (said.mapError Unwritable.report).map .text ∧
      (((session.answer (.language (.activate request))).1.answerAll others).1.answer
        (.language (.shared text none))).2.outcome =
          (said.mapError Unwritable.report).map fun found => .optionalText (some found) := by
  obtain ⟨catalogs, started⟩ := exists_start_of_accepted accepted
  have stillStarted :
      ((session.answer (.language (.activate request))).1.answerAll others).1.translation =
        session.translation.start request.edition catalogs true := by
    rw [translation_answerAll_of_none idle, started, installs]
  refine ⟨(session.translation.start request.edition catalogs true).message text, ?_, ?_, ?_⟩
  · rintro isEarlier
    rw [isEarlier]
    exact exists_message_of_start session.translation catalogs true text
  · rw [outcome_message, stillStarted]
  · exact outcome_shared (by rw [stillStarted]; rfl)

end Idle

end Reachable

/-- In every session that comes about by commands, only an active translation is installed,
and if the shared function is a translation of ours it is the active one and is installed; a
translation that was deactivated or replaced is never the shared function again. An
activation that fails leaves all of this as it was. Functions of other programs are not
withdrawn by a deactivation, nor by an activation that is not to install anything. Behind a
deactivation messages say themselves, and behind an activation that installs the shared
function says what messages say, as long as nothing more is done to the translation: the same
text, or the same failure where the later edition of the library cannot look a message up. -/
theorem shared_function_follows_translation {session : Session}
    (reachable : session.IsReachable) :
    session.translation.IsConsistent ∧
    (∀ request report,
      (session.answer (.language (.activate request))).2.outcome = .error report →
      (session.answer (.language (.activate request))).1.translation = session.translation) ∧
    (∀ old, session.translation.active = some old → ∀ command,
      (command = .language .deactivate ∨ ∃ request reply,
        command = .language (.activate request) ∧
          (session.answer command).2.outcome = .ok reply) →
      ∀ others, ((session.answer command).1.answerAll others).1.translation.shared ≠
        some (.installed old)) ∧
    (∀ lead, session.translation.shared = some (.foreign lead) →
      (session.answer (.language .deactivate)).1.translation.shared = some (.foreign lead) ∧
      ∀ request, request.install = false →
        (session.answer (.language (.activate request))).1.translation.shared =
          some (.foreign lead)) ∧
    (∀ others, (∀ command ∈ others, command.operation? = none) → ∀ text,
      (((session.answer (.language .deactivate)).1.answerAll others).1.answer
        (.language (.message text))).2.outcome = .ok (.text text)) ∧
    (∀ request reply, request.install = true →
      (session.answer (.language (.activate request))).2.outcome = .ok reply →
      ∀ others, (∀ command ∈ others, command.operation? = none) → ∀ text, ∃ said : Written,
        (request.edition = .messages → ∃ found, said = .ok found) ∧
        (((session.answer (.language (.activate request))).1.answerAll others).1.answer
          (.language (.message text))).2.outcome = (said.mapError Unwritable.report).map .text ∧
        (((session.answer (.language (.activate request))).1.answerAll others).1.answer
          (.language (.shared text none))).2.outcome =
            (said.mapError Unwritable.report).map fun found => .optionalText (some found)) :=
  ⟨isConsistent_of_isReachable reachable,
    fun _ _ refused => translation_of_refused refused,
    fun _ active _ replaces others => shared_ne_of_replaced reachable active replaces others,
    fun _ foreign => shared_of_foreign foreign,
    fun _ idle text => message_of_deactivated idle session text,
    fun _ _ installs accepted _ idle text => shared_says_message idle installs accepted text⟩

/-- A translation without catalogs was installed, and an activation that finds none and is not
content with that has failed: the shared function is still the installed translation. Behind
another activation, which installs one more translation, it is never that one again, although
both say the same. -/
theorem shared_function_follows_translation_replaced :
    ∃ (session : Session) (old : Translation.Active) (request : Translation.Request),
      session.IsReachable ∧
      session.translation.shared = some (.installed old) ∧
      (session.answer (.language (.activate request))).2.outcome = .ok (.truth true) ∧
      (∀ others, ((session.answer (.language (.activate request))).1.answerAll
        others).1.translation.shared ≠ some (.installed old)) ∧
      ∃ said, (((session.answer (.language (.activate request))).1.answerAll []).1.answer
          (.language (.message "hello"))).2.outcome = .ok (.text said) ∧
        (((session.answer (.language (.activate request))).1.answerAll []).1.answer
          (.language (.shared "hello" none))).2.outcome = .ok (.optionalText (some said)) := by
  let request : Translation.Request := ⟨[], ["de"], true, true, .messages⟩
  let commands : List Command :=
    [.language (.activate request), .language (.activate ⟨[], ["fr"], false, true, .messages⟩)]
  let session := ((start 30 []).answerAll commands).1
  have reachable : session.IsReachable := ⟨30, [], commands, rfl⟩
  obtain ⟨consistent, -, retires, -, -, agrees⟩ := shared_function_follows_translation reachable
  have shared : session.translation.shared = some (.installed ⟨0, .messages, []⟩) := by
    decide +kernel
  have accepted : (session.answer (.language (.activate request))).2.outcome =
      .ok (.truth true) := rfl
  obtain ⟨said, isFound, message, shares⟩ :=
    agrees request _ rfl accepted [] (List.forall_mem_nil _) "hello"
  obtain ⟨found, rfl⟩ := isFound rfl
  exact ⟨session, ⟨0, .messages, []⟩, request, reachable, shared, accepted,
    retires _ (consistent.active _ shared) _ (.inr ⟨request, _, rfl, accepted⟩),
    found, message, shares⟩

end Session

end ProtectionLimits
