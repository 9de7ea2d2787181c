import ProtectionLimits.Proofs.Fault.Untranslated
import ProtectionLimits.Proofs.Setting.Spelling
import ProtectionLimits.Session.Transcript

/-!
Contract: what is answered when a setting is parsed.

Owns the answer to every setting for every property while no translation is active: which
settings are refused, with which report, and what the others give. The texts that are accepted
are told by the grammar of numerals, and their values by the places of their digits.

Does not own the use of a setting in a registry.
-/

set_option autoImplicit false

namespace ProtectionLimits.Session

open Numeral (IsBody Spells)
open Setting (IsOutOfRange)

def parsing (session : Session) (property setting : Value) : Except Fault.Report Reply :=
  (session.answer (.inspection (.parse property setting))).2.outcome

section Cases

variable {session : Session} {property setting : Value}

theorem parsing_of_accepted {value : Int}
    (accepted : Setting.parse property setting = .ok value) :
    session.parsing property setting = .ok (.integer value) := by
  simp only [parsing, answer, perform, InspectionCommand.run, gives, accepted, Except.map, reported]

theorem parsing_of_refused (untranslated : session.translation.isActive = false) {fault : Fault}
    (refused : Setting.parse property setting = .error fault) :
    session.parsing property setting = .error (fault.report .identity) := by
  simp only [parsing, answer, perform, InspectionCommand.run, gives, refused, Except.map, reported,
    Translation.message_of_not_isActive untranslated]

end Cases

/-- What is neither an integer nor a text is a type error. -/
theorem parsing_of_other {session : Session} (untranslated : session.translation.isActive = false)
    (property : Value) {setting : Value} (notInteger : ∀ value, setting ≠ .int value)
    (notText : ∀ content, setting ≠ .text content) :
    ∃ report, session.parsing property setting = .error report ∧ report.errorClass = .limitsType ∧
      report.number = none := by
  have refused := Setting.parse_of_other property notInteger notText
  obtain ⟨text, report⟩ :=
    Fault.exists_report untranslated
      (show (Fault.settingKind setting.kind).hindrance? = none from rfl)
  rw [Translation.message_of_not_isActive untranslated] at report
  refine ⟨_, parsing_of_refused untranslated refused, ?_⟩
  rw [report]
  exact ⟨rfl, rfl⟩

section Texts

variable {session : Session} (untranslated : session.translation.isActive = false)
  (property : Value) {content : String} {body : List Char} (isBody : IsBody content.toList body)

include isBody

theorem parsing_of_inRange {numeral : Numeral} (spells : Spells body numeral)
    (inside : ¬ IsOutOfRange numeral) :
    session.parsing property (.text content) = .ok (.integer (max 0 numeral.amount)) :=
  parsing_of_accepted (Setting.parse_of_inRange isBody property spells inside)

include untranslated

theorem parsing_of_no_numeral (noNumeral : ¬ ∃ numeral, Spells body numeral) :
    session.parsing property (.text content) =
      .error (Fault.refusalReport content property "not an integer") := by
  rw [← Fault.report_settingNotInteger]
  exact parsing_of_refused untranslated (Setting.parse_of_no_numeral isBody property noNumeral)

theorem parsing_of_outOfRange {numeral : Numeral} (spells : Spells body numeral)
    (outside : IsOutOfRange numeral) :
    session.parsing property (.text content) =
      .error (Fault.refusalReport content property "out of range") := by
  rw [← Fault.report_settingOutOfRange]
  exact parsing_of_refused untranslated (Setting.parse_of_outOfRange isBody property spells outside)

end Texts

section Named

variable {property : Value} (hasText : property.unwritable? = none)

include hasText

/-- Of a property that has a text a refusal is reported as such. -/
theorem refusalReport_of_hasText (content reason : String) :
    Fault.refusalReport content property reason =
      ⟨.limitsNumber, Fault.refusalMessage content property.literal reason,
        some (property, .text content)⟩ := by
  rw [Fault.refusalReport, Value.written, hasText]
  rfl

/-- The two reasons for a refusal are told apart by their messages. -/
theorem refusalReports_ne (content : String) :
    Fault.refusalReport content property "not an integer" ≠
      Fault.refusalReport content property "out of range" := by
  rw [refusalReport_of_hasText hasText, refusalReport_of_hasText hasText]
  intro same
  have reasons := Fault.refusalMessage_inj (congrArg Fault.Report.message same)
  exact absurd reasons (by decide)

variable {session : Session} (untranslated : session.translation.isActive = false)

include untranslated

/-- A text is refused as no integer exactly if its body spells no numeral, and as out of range
exactly if the numeral that it spells is. All else that is spelled is accepted. -/
theorem parsing_text {content : String} {body : List Char}
    (isBody : IsBody content.toList body) :
    (session.parsing property (.text content) =
        .error (Fault.refusalReport content property "not an integer") ↔
      ¬ ∃ numeral, Spells body numeral) ∧
    ∀ numeral, Spells body numeral →
      (session.parsing property (.text content) =
          .error (Fault.refusalReport content property "out of range") ↔ IsOutOfRange numeral) ∧
      (¬ IsOutOfRange numeral →
        session.parsing property (.text content) = .ok (.integer (max 0 numeral.amount))) := by
  constructor
  · refine ⟨?_, parsing_of_no_numeral untranslated property isBody⟩
    rintro refused ⟨numeral, spells⟩
    by_cases outside : IsOutOfRange numeral
    · rw [parsing_of_outOfRange untranslated property isBody spells outside] at refused
      exact refusalReports_ne hasText content (Except.error.inj refused).symm
    · rw [parsing_of_inRange property isBody spells outside] at refused
      cases refused
  · intro numeral spells
    refine ⟨⟨fun refused => ?_, parsing_of_outOfRange untranslated property isBody spells⟩,
      parsing_of_inRange property isBody spells⟩
    by_contra inside
    rw [parsing_of_inRange property isBody spells inside] at refused
    cases refused

/-- Every failure of a text shows the property and the text as they were passed. -/
theorem number_of_parsing_text (content : String) {report : Fault.Report}
    (failed : session.parsing property (.text content) = .error report) :
    report.errorClass = .limitsNumber ∧ report.number = some (property, .text content) := by
  have isBody := Numeral.isBody_withoutLineEnd content.toList
  by_cases noNumeral : ∃ numeral, Spells (Numeral.withoutLineEnd content.toList) numeral
  · obtain ⟨numeral, spells⟩ := noNumeral
    by_cases outside : IsOutOfRange numeral
    · rw [parsing_of_outOfRange untranslated property isBody spells outside,
        refusalReport_of_hasText hasText] at failed
      cases failed
      exact ⟨rfl, rfl⟩
    · rw [parsing_of_inRange property isBody spells outside] at failed
      cases failed
  · rw [parsing_of_no_numeral untranslated property isBody noNumeral,
      refusalReport_of_hasText hasText] at failed
    cases failed
    exact ⟨rfl, rfl⟩

end Named

/-- Settings are a language, and parsing decides it. While no translation is active, whatever is
neither an integer nor a text is a type error. An integer is accepted whatever its size, and
gives itself or zero. Of a text the body counts, which is all of it but one line end at its end.
If the body is no numeral, the text is refused as no integer; if it is one, the text is refused as
out of range where it has more than 4300 digits or is no integer of 32 bits, and otherwise gives
what its digits amount to by their places, or zero. There are no other failures, and a number
error shows the property and the text as they were passed. The property is a name or anything else
that has a text. -/
theorem parsing_decides_settings {session : Session}
    (untranslated : session.translation.isActive = false) {property : Value}
    (hasText : property.unwritable? = none) (setting : Value) :
    ((∃ report, session.parsing property setting = .error report ∧
        report.errorClass = .limitsType) ↔
      (∀ value, setting ≠ .int value) ∧ ∀ content, setting ≠ .text content) ∧
    (∀ value, setting = .int value →
      session.parsing property setting = .ok (.integer (max 0 value))) ∧
    (∀ content, setting = .text content →
      ∃ body, IsBody content.toList body ∧
        (session.parsing property setting =
            .error (Fault.refusalReport content property "not an integer") ↔
          ¬ ∃ numeral, Spells body numeral) ∧
        ∀ numeral, Spells body numeral →
          (session.parsing property setting =
              .error (Fault.refusalReport content property "out of range") ↔
            IsOutOfRange numeral) ∧
          (¬ IsOutOfRange numeral →
            session.parsing property setting = .ok (.integer (max 0 numeral.amount)))) ∧
    ∀ report, session.parsing property setting = .error report →
      report.errorClass = .limitsType ∨
        report.errorClass = .limitsNumber ∧
          ∃ content, setting = .text content ∧ report.number = some (property, .text content) := by
  refine ⟨⟨?_, ?_⟩, ?_, ?_, ?_⟩
  · rintro ⟨report, failed, isType⟩
    constructor
    · rintro value rfl
      rw [parsing_of_accepted rfl] at failed
      cases failed
    · rintro content rfl
      have isNumber := (number_of_parsing_text hasText untranslated content failed).1
      rw [isType] at isNumber
      cases isNumber
  · rintro ⟨notInteger, notText⟩
    obtain ⟨report, failed, isType, -⟩ :=
      parsing_of_other untranslated property notInteger notText
    exact ⟨report, failed, isType⟩
  · rintro value rfl
    exact parsing_of_accepted rfl
  · rintro content rfl
    have isBody := Numeral.isBody_withoutLineEnd content.toList
    exact ⟨_, isBody, parsing_text hasText untranslated isBody⟩
  · intro report failed
    by_cases isText : ∃ content, setting = .text content
    · obtain ⟨content, rfl⟩ := isText
      obtain ⟨isNumber, number⟩ := number_of_parsing_text hasText untranslated content failed
      exact .inr ⟨isNumber, content, rfl, number⟩
    · by_cases isInteger : ∃ value, setting = .int value
      · obtain ⟨value, rfl⟩ := isInteger
        rw [parsing_of_accepted rfl] at failed
        cases failed
      · obtain ⟨other, failedOther, isType, -⟩ := parsing_of_other untranslated property
          (not_exists.1 isInteger) (not_exists.1 isText)
        rw [failedOther] at failed
        cases failed
        exact .inl isType

/-- A text with two line ends is no numeral, and with one it is: the numeral of an integer just
beyond 32 bits, which is out of range. -/
theorem parsing_decides_settings_lineEnds :
    ((start 30 []).parsing (.text "max_occur_limit") (.text "2147483648\n\n") =
        .error (Fault.refusalReport "2147483648\n\n" (.text "max_occur_limit")
          "not an integer")) ∧
      (start 30 []).parsing (.text "max_occur_limit") (.text "2147483648\n") =
        .error (Fault.refusalReport "2147483648\n" (.text "max_occur_limit") "out of range") := by
  have untranslated : (start 30 []).translation.isActive = false := rfl
  have hasText : (Value.text "max_occur_limit").unwritable? = none := rfl
  obtain ⟨-, -, twice, -⟩ :=
    parsing_decides_settings untranslated hasText (.text "2147483648\n\n")
  obtain ⟨-, -, once, -⟩ :=
    parsing_decides_settings untranslated hasText (.text "2147483648\n")
  obtain ⟨bodyOfTwice, isBodyOfTwice, noInteger, -⟩ := twice _ rfl
  obtain ⟨bodyOfOnce, isBodyOfOnce, -, spelled⟩ := once _ rfl
  refine ⟨noInteger.2 ?_, (spelled ⟨false, "2147483648".toList⟩ ?_).1.2 ?_⟩
  · rw [← Numeral.read?_eq_none_iff isBodyOfTwice]
    decide
  · rw [← Numeral.read?_eq_some_iff isBodyOfOnce]
    decide
  · exact .inr (.inr (by decide))

end ProtectionLimits.Session
