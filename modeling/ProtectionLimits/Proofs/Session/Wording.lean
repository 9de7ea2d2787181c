import Mathlib.Data.List.Forall2
import ProtectionLimits.Proofs.Session.Language

/-!
Contract: two runs of the same commands in two languages.

Owns what the answers of two such runs have in common. Command by command they give the
same reply or fail for one cause, with the same entries and details, and everything in the
two sessions stays the same but the translation. A message may be one that cannot be looked up or
filled: its catalog has a rule that fails, its template asks for what there is not, or what it
shows has no text. Then that is reported in place of the cause, but still there is a failure in
both runs. Where both languages can word the cause, both reports are under its error class and
carry its number.
-/

set_option autoImplicit false

namespace ProtectionLimits

/-- Whether a failure can be worded in the language in force: the template of its message is found
there and can be filled with the arguments. -/
def Translation.Words (translation : Translation) (fault : Fault) : Prop :=
  ∃ text, fault.message translation.message = .ok text

namespace Fault

/-- A failure that can be worded is reported as what it is. -/
theorem report_of_words {translation : Translation} {fault : Fault}
    (words : translation.Words fault) :
    (fault.report translation.message).errorClass = fault.errorClass ∧
      (fault.report translation.message).number = fault.number? := by
  obtain ⟨text, worded⟩ := words
  rw [report, worded]
  exact ⟨rfl, rfl⟩

/-- Two reports of one failure, each in its language. -/
structure IsReported (fault : Fault) (left right : Translation) (first second : Report) :
    Prop where
  inFirst : first = fault.report left.message
  inSecond : second = fault.report right.message
  errorClass : left.Words fault → right.Words fault → first.errorClass = second.errorClass
  number : left.Words fault → right.Words fault → first.number = second.number

theorem isReported (fault : Fault) (left right : Translation) :
    fault.IsReported left right (fault.report left.message) (fault.report right.message) where
  inFirst := rfl
  inSecond := rfl
  errorClass leftWords rightWords := by
    rw [(report_of_words leftWords).1, (report_of_words rightWords).1]
  number leftWords rightWords := by
    rw [(report_of_words leftWords).2, (report_of_words rightWords).2]

end Fault

/-- Two answers to one command that differ in nothing but the wording of a failure. -/
structure Answer.SaysTheSame (left right : Translation) (first second : Answer) : Prop where
  outcome :
    (∃ reply, first.outcome = .ok reply ∧ second.outcome = .ok reply) ∨
      ∃ fault firstReport secondReport,
        first.outcome = .error firstReport ∧ second.outcome = .error secondReport ∧
          Fault.IsReported fault left right firstReport secondReport
  entries : first.entries = second.entries
  details : first.details = second.details

namespace Session

/-- A neutral command is answered by one effect, told in the language in force. -/
theorem answer_withTranslation (session : Session) (translation : Translation)
    {command : Command} (neutral : command.isNeutral = true) :
    (session.withTranslation translation).answer command =
      ((session.perform command).session.refreshed.withTranslation translation,
        ⟨(session.withTranslation translation).reported (session.perform command).result,
          (session.perform command).entries, (session.perform command).details⟩) := by
  rw [answer, perform_withTranslation session translation neutral]
  exact congrArg (Prod.mk · _) (refreshed_withTranslation _ translation)

theorem saysTheSame_of_effect (session : Session) (left right : Translation)
    (result : Except Fault Reply) (entries : List Log.Entry) (details : List Detail) :
    Answer.SaysTheSame left right
      ⟨(session.withTranslation left).reported result, entries, details⟩
      ⟨(session.withTranslation right).reported result, entries, details⟩ where
  outcome := by
    cases result with
    | ok reply => exact .inl ⟨reply, rfl, rfl⟩
    | error fault => exact .inr ⟨fault, _, _, rfl, rfl, fault.isReported left right⟩
  entries := rfl
  details := rfl

/-- Neutral commands lead to one session and say the same in both languages. -/
theorem answerAll_withTranslation (session : Session) (left right : Translation)
    {commands : List Command} (neutral : ∀ command ∈ commands, command.isNeutral = true) :
    ∃ reached : Session,
      ((session.withTranslation left).answerAll commands).1 = reached.withTranslation left ∧
      ((session.withTranslation right).answerAll commands).1 = reached.withTranslation right ∧
      List.Forall₂ (Answer.SaysTheSame left right)
        ((session.withTranslation left).answerAll commands).2
        ((session.withTranslation right).answerAll commands).2 := by
  induction commands generalizing session with
  | nil => exact ⟨session, rfl, rfl, .nil⟩
  | cons command rest inductionHypothesis =>
      rw [List.forall_mem_cons] at neutral
      obtain ⟨commandNeutral, restNeutral⟩ := neutral
      obtain ⟨reached, inLeft, inRight, others⟩ :=
        inductionHypothesis (session.perform command).session.refreshed restNeutral
      simp only [answerAll, answer_withTranslation session _ commandNeutral]
      exact ⟨reached, inLeft, inRight,
        .cons (saysTheSame_of_effect session left right _ _ _) others⟩

/-- The same neutral commands, given to one session under any two translations, say the same
one by one, and behind each of them the two sessions are the same except for the
translations, which are still those from before. A failure is a failure in both runs. If
both translations can word it, its class and its number are the same; otherwise what keeps a
message from being made is reported in its place. -/
theorem language_words_failures_only (session : Session) (left right : Translation)
    {commands : List Command} (neutral : ∀ command ∈ commands, command.isNeutral = true) :
    (∀ count, ∃ reached : Session,
      ((session.withTranslation left).answerAll (commands.take count)).1 =
        reached.withTranslation left ∧
      ((session.withTranslation right).answerAll (commands.take count)).1 =
        reached.withTranslation right) ∧
    List.Forall₂ (Answer.SaysTheSame left right)
      ((session.withTranslation left).answerAll commands).2
      ((session.withTranslation right).answerAll commands).2 := by
  constructor
  · intro count
    have neutralSoFar : ∀ command ∈ commands.take count, command.isNeutral = true :=
      fun command member => neutral command (List.mem_of_mem_take member)
    obtain ⟨reached, inLeft, inRight, -⟩ :=
      answerAll_withTranslation session left right neutralSoFar
    exact ⟨reached, inLeft, inRight⟩
  · obtain ⟨-, -, -, answers⟩ := answerAll_withTranslation session left right neutral
    exact answers

def failureClasses (answers : List Answer) : List (Option ErrorClass) :=
  answers.map fun answer => match answer.outcome with
    | .ok _ => none
    | .error report => some report.errorClass

/-- A setting that is no numeral, an index that addresses nothing and a setting that is
accepted, without a translation and under one with a good template for the first failure and
one for the second that asks for an argument too many. -/
theorem language_words_failures_only_malformed :
    ∃ (right : Translation) (commands : List Command),
      (∀ command ∈ commands, command.isNeutral = true) ∧
      failureClasses (((start 30 []).withTranslation .initial).answerAll commands).2 =
        [none, some .limitsNumber, some .limitsValue, none] ∧
      failureClasses (((start 30 []).withTranslation right).answerAll commands).2 =
        [none, some .limitsNumber, some (.standard "IndexError"), none] ∧
      (∀ count, ∃ reached : Session,
        (((start 30 []).withTranslation .initial).answerAll (commands.take count)).1 =
          reached.withTranslation .initial ∧
        (((start 30 []).withTranslation right).answerAll (commands.take count)).1 =
          reached.withTranslation right) ∧
      List.Forall₂ (Answer.SaysTheSame .initial right)
        (((start 30 []).withTranslation .initial).answerAll commands).2
        (((start 30 []).withTranslation right).answerAll commands).2 := by
  let right : Translation :=
    Translation.initial.start .messages
      [{ messages := [(Wording.settingNotInteger.template, "\x7b1!r\x7d: \x7b0!r\x7d"),
          (Wording.limitIndex.template, "\x7b1\x7d")] }] false
  let commands : List Command :=
    [.registry (.make "r" ⟨none, none, .absent, .prepared [], .standard, []⟩),
      .registry (.call "r" (.named (.text "max_xml_name_limit") (.state .apiProperty) (.text "x"))),
      .registry (.call "r" (.indexed (.int 9) (.state .apiProperty) (.int 5))),
      .registry (.call "r" (.indexed (.int 7) (.state .apiProperty) (.text "12")))]
  have neutral : ∀ command ∈ commands, command.isNeutral = true := by decide
  obtain ⟨sameSessions, sameAnswers⟩ :=
    language_words_failures_only (start 30 []) .initial right neutral
  exact ⟨right, commands, neutral, by decide +kernel, by decide +kernel, sameSessions, sameAnswers⟩

/-- An index that is too long to be shown and one that is not, both addressing nothing. The first
can be worded by a template that does not show it, and not without a translation. Neither can under
a catalog without templates whose rule for plural forms divides by zero. -/
theorem language_words_failures_only_unworded :
    ∃ (terse failing : Translation) (commands : List Command),
      (∀ command ∈ commands, command.isNeutral = true) ∧
      failureClasses (((start 30 []).withTranslation .initial).answerAll commands).2 =
        [none, some (.standard "ValueError"), some .limitsValue] ∧
      failureClasses (((start 30 []).withTranslation terse).answerAll commands).2 =
        [none, some .limitsValue, some .limitsValue] ∧
      failureClasses (((start 30 []).withTranslation failing).answerAll commands).2 =
        [none, some (.standard "ZeroDivisionError"), some (.standard "ZeroDivisionError")] := by
  let terse : Translation :=
    Translation.initial.start .messages
      [{ messages := [(Wording.limitIndex.template, "bad index")] }] false
  let failing : Translation :=
    Translation.initial.start .messagesAndForms
      [{ messages := [], rule := .operation .quotient .count (.number 0) }] false
  let commands : List Command :=
    [.registry (.make "r" ⟨none, none, .absent, .prepared [], .standard, []⟩),
      .registry (.call "r" (.indexed (.int (10 ^ 5000)) (.state .apiProperty) (.int 5))),
      .registry (.call "r" (.indexed (.int 9) (.state .apiProperty) (.int 5)))]
  have neutral : ∀ command ∈ commands, command.isNeutral = true := by
    simp only [commands, List.forall_mem_cons]
    exact ⟨rfl, rfl, rfl, nofun⟩
  exact ⟨terse, failing, commands, neutral, by decide +kernel, by decide +kernel,
    by decide +kernel⟩

end Session

end ProtectionLimits
