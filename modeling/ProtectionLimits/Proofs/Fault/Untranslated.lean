import ProtectionLimits.Fault.Report
import ProtectionLimits.Proofs.Text.Template
import ProtectionLimits.Translation

/-!
Contract: reports of failures while no translation is active.

Owns that every message of the library can be filled as it stands. A template from a catalog can
be one that cannot be filled, and then that is what is reported. Without a translation only one
thing can keep a message from being made: that something which it shows has no text
(`hindrance?`). Then the reason of that is reported, and otherwise the failure itself, under its
own error class and with what it carries. Owns also the messages of refused settings in full.
-/

set_option autoImplicit false

namespace ProtectionLimits

open Text.Template (Failure Form forms? scan)

/-- Without a translation messages stay as they are. -/
theorem Translation.message_of_not_isActive {translation : Translation}
    (untranslated : translation.isActive = false) :
    translation.message = Translator.identity := by
  funext text
  rw [isActive, Option.isSome_eq_false_iff, Option.isNone_iff_eq_none] at untranslated
  rw [message, untranslated]
  rfl

/-! ### What messages show -/

/-- The forms in which a message shows what it is about. -/
def Wording.forms : Wording → List Form
  | settingNotInteger | settingOutOfRange | limitUnmanaged | stateKind => [.literal, .literal]
  | optionFixed | optionUndeletable => [.display]
  | optionFlagKind => [.literal, .display, .literal]
  | optionLevelKind => [.literal, .display]
  | _ => [.literal]

/-- The templates of the library show their arguments whole and in order. -/
theorem Wording.forms_template (wording : Wording) :
    forms? (scan .text wording.template.toList) = some wording.forms := by
  cases wording <;> rfl

/-- What comes of something that shows exhibits: it is made, unless one of them has no text. -/
inductive MadeUnless {Result : Type} : Option Unwritable → Except Failure Result → Prop where
  | made (result : Result) : MadeUnless none (.ok result)
  | hindered (reason : Unwritable) : MadeUnless (some reason) (.error (.unwritable reason))

theorem MadeUnless.map {First Second : Type} (convert : First → Second)
    {hindrance : Option Unwritable} {result : Except Failure First}
    (comes : MadeUnless hindrance result) : MadeUnless hindrance (result.map convert) := by
  cases comes with
  | made result => exact .made (convert result)
  | hindered reason => exact .hindered reason

/-- Why an exhibit has no literal form, if it has none. -/
def Exhibit.unwritable? (exhibit : Exhibit) : Option Unwritable :=
  match exhibit.written with
  | .error reason => some reason
  | .ok _ => none

theorem Exhibit.unwritable?_value (content : Value) :
    (value content).unwritable? = content.unwritable? := by
  rw [unwritable?, written, Value.written]
  cases content.unwritable? <;> rfl

/-- An option can be displayed, whichever of the two wordings it takes. -/
theorem OptionLabel.exists_display (label : OptionLabel) :
    ∃ text, label.display .identity = .ok text := by
  cases rewritable : label.owner.isRewritable with
  | true =>
      simp only [OptionLabel.display, rewritable]
      exact ⟨_, rfl⟩
  | false =>
      simp only [OptionLabel.display, rewritable]
      exact ⟨_, rfl⟩

/-- An exhibit is shown in a message, unless it has no literal form. Only options are shown in
their display form, and they have both. -/
theorem Exhibit.madeUnless_whole (form : Form) (exhibit : Exhibit)
    (displaysOption : form = .display → ∃ label, exhibit = .option label) :
    MadeUnless exhibit.unwritable? ((reader .identity).whole (form, exhibit)) := by
  cases form with
  | literal =>
      have isLiteral : (reader .identity).whole (.literal, exhibit) =
          exhibit.written.mapError .unwritable := rfl
      rw [isLiteral, unwritable?]
      cases exhibit.written with
      | error reason => exact .hindered reason
      | ok text => exact .made text
  | display =>
      obtain ⟨label, rfl⟩ := displaysOption rfl
      obtain ⟨text, displays⟩ := label.exists_display
      have isDisplay : (reader .identity).whole (.display, .option label) = .ok text := displays
      rw [isDisplay]
      exact .made text

/-- The first exhibit without a literal form ends a message, so those behind it do not count. -/
theorem madeUnless_mapM {shown : List (Form × Exhibit)}
    (displaysOptions : ∀ part ∈ shown, part.1 = .display → ∃ label, part.2 = .option label) :
    MadeUnless ((shown.map Prod.snd).findSome? Exhibit.unwritable?)
      (shown.mapM (Exhibit.reader .identity).whole) := by
  induction shown with
  | nil => exact .made []
  | cons part rest inductionHypothesis =>
      rw [List.forall_mem_cons] at displaysOptions
      have others := inductionHypothesis displaysOptions.2
      have first := part.2.madeUnless_whole part.1 displaysOptions.1
      rw [List.map_cons, List.findSome?_cons, List.mapM_cons]
      revert first
      generalize part.2.unwritable? = hindrance
      generalize (Exhibit.reader .identity).whole part = result
      rintro (text | reason)
      · exact others.map fun texts => text :: texts
      · exact .hindered reason

namespace Fault

/-- Why a failure cannot be worded without a translation, if it cannot: something that the message
shows has no text. -/
def hindrance? (fault : Fault) : Option Unwritable :=
  match fault.worded?, fault with
  | some (_, exhibits), _ => exhibits.findSome? Exhibit.unwritable?
  | none, stateUnknown number => number.unwritable?
  | none, _ => none

/-- What a message is about fits its template: there is an exhibit for each field, and only options
are displayed. -/
theorem fits_of_worded {fault : Fault} {wording : Wording} {exhibits : List Exhibit}
    (worded : fault.worded? = some (wording, exhibits)) :
    wording.forms.length = exhibits.length ∧
      ∀ part ∈ wording.forms.zip exhibits, part.1 = .display → ∃ label, part.2 = .option label := by
  cases fault <;> cases worded <;> refine ⟨rfl, ?_⟩ <;> simp [Wording.forms]

theorem message_of_worded {fault : Fault} {wording : Wording} {exhibits : List Exhibit}
    (worded : fault.worded? = some (wording, exhibits)) :
    fault.message .identity =
      ((wording.forms.zip exhibits).mapM (Exhibit.reader .identity).whole).map fun texts =>
        String.ofList
          (Text.Template.assembled (scan .text wording.template.toList) texts) := by
  simp only [message, worded]
  exact Text.fill_of_forms (Exhibit.reader .identity) wording.forms_template
    (fits_of_worded worded).1

/-- Without a translation every failure has a message, unless something in it has no text. -/
theorem madeUnless_message (fault : Fault) :
    MadeUnless fault.hindrance? (fault.message .identity) := by
  cases worded : fault.worded? with
  | some wordedAs =>
      obtain ⟨wording, exhibits⟩ := wordedAs
      obtain ⟨enough, displaysOptions⟩ := fits_of_worded worded
      have shown := madeUnless_mapM displaysOptions
      rw [List.map_snd_zip (Nat.le_of_eq enough.symm)] at shown
      rw [message_of_worded worded]
      simp only [hindrance?, worded]
      exact shown.map _
  | none =>
      cases fault with
      | stateUnknown number =>
          have hindrance : (stateUnknown number).hindrance? = number.unwritable? := rfl
          have message : (stateUnknown number).message .identity =
              (number.written.mapError .unwritable).map fun text =>
                text ++ " is not a valid State" := rfl
          rw [hindrance, message, Value.written]
          cases number.unwritable? with
          | some reason => exact .hindered reason
          | none => exact .made _
      | _ => first | cases worded; done | exact .made _

end Fault

/-- Without a translation a failure is reported as what it is, unless something that its message
shows has no text. -/
theorem Fault.exists_report {translation : Translation}
    (untranslated : translation.isActive = false) {fault : Fault}
    (unhindered : fault.hindrance? = none) :
    ∃ text, fault.report translation.message = ⟨fault.errorClass, text, fault.number?⟩ := by
  have made := fault.madeUnless_message
  rw [Translation.message_of_not_isActive untranslated, report]
  rw [unhindered] at made
  cases message : fault.message .identity with
  | ok text => exact ⟨text, rfl⟩
  | error failure =>
      rw [message] at made
      cases made

theorem Fault.errorClass_report {fault : Fault} (unhindered : fault.hindrance? = none) :
    (fault.report .identity).errorClass = fault.errorClass := by
  have initial : Translation.initial.message = Translator.identity := rfl
  obtain ⟨text, reported⟩ :=
    Fault.exists_report (show Translation.initial.isActive = false from rfl) unhindered
  rw [← initial, reported]

/-- What is reported of something that has no text. -/
def Unwritable.report (reason : Unwritable) : Fault.Report :=
  ⟨.ofName reason.className, reason.message, none⟩

/-- If something that a message shows has no text, that is reported instead of the failure. -/
theorem Fault.report_of_hindrance {translation : Translation}
    (untranslated : translation.isActive = false) {fault : Fault} {reason : Unwritable}
    (hindered : fault.hindrance? = some reason) :
    fault.report translation.message = reason.report := by
  have made := fault.madeUnless_message
  rw [Translation.message_of_not_isActive untranslated, report]
  rw [hindered] at made
  cases message : fault.message .identity with
  | ok text =>
      rw [message] at made
      cases made
  | error failure =>
      rw [message] at made
      cases made
      rfl

/-! ### Refused settings -/

namespace Fault

/-- The message of a text that is refused as the setting of a property. -/
def refusalMessage (setting property reason : String) : String :=
  "invalid setting " ++ Text.quoted setting ++ " for property " ++ property ++ ": " ++ reason

theorem ofList_refusalMessage (setting property reason : String) :
    String.ofList ("invalid setting ".toList ++ ((Text.quoted setting).toList ++
      (" for property ".toList ++ (property.toList ++ (": ".toList ++ reason.toList))))) =
        refusalMessage setting property reason := by
  unfold refusalMessage
  generalize Text.quoted setting = quoted
  simp only [String.ofList_append, String.ofList_toList, String.append_assoc]

/-- The message of a refusal tells its reason. -/
theorem refusalMessage_inj {setting property reason other : String}
    (same : refusalMessage setting property reason = refusalMessage setting property other) :
    reason = other :=
  (String.append_right_inj _).1 same

/-- The report of a text that is refused as the setting of a property: the message, unless the
property has no text. -/
def refusalReport (setting : String) (property : Value) (reason : String) : Report :=
  match property.written with
  | .ok text => ⟨.limitsNumber, refusalMessage setting text reason, some (property, .text setting)⟩
  | .error reason => reason.report

/-- A refusal is reported as such, if its template is that of a setting and a property. -/
theorem report_of_refusal {fault : Fault} {wording : Wording} {setting reason : String}
    {property : Value}
    (worded : fault.worded? = some (wording, [.text setting, .value property]))
    (forms : wording.forms = [.literal, .literal])
    (isTemplate : ∀ first second,
      Text.Template.assembled (scan .text wording.template.toList) [first, second] =
        "invalid setting ".toList ++ (first.toList ++ (" for property ".toList ++
          (second.toList ++ (": ".toList ++ reason.toList)))))
    (isNumber : fault.errorClass = .limitsNumber)
    (carried : fault.number? = some (property, .text setting)) :
    fault.report .identity = refusalReport setting property reason := by
  have isProperty : (Exhibit.reader .identity).whole (.literal, .value property) =
      property.written.mapError .unwritable := rfl
  have isSetting : (Exhibit.reader .identity).whole (.literal, .text setting) =
      .ok (Text.quoted setting) := rfl
  rw [report, message_of_worded worded, forms, refusalReport]
  simp only [List.zip_cons_cons, List.zip_nil_right, List.mapM_cons, List.mapM_nil, isSetting,
    isProperty]
  cases property.written with
  | error reason =>
      have isMissing : (.error reason : Written).mapError Failure.unwritable =
          .error (.unwritable reason) := rfl
      simp only [isMissing, Except.map, bind, Except.bind]
      rfl
  | ok text =>
      have isMade : (.ok text : Written).mapError Failure.unwritable = .ok text := rfl
      simp only [isMade, Except.map, bind, Except.bind, pure, Except.pure, isTemplate,
        ofList_refusalMessage, isNumber, carried]

/-- What is no numeral is refused with a message that says so. -/
theorem report_settingNotInteger (setting : String) (property : Value) :
    (settingNotInteger setting property).report .identity =
      refusalReport setting property "not an integer" :=
  report_of_refusal rfl rfl (fun _ _ => rfl) rfl rfl

/-- A numeral out of range is refused with a message that says so. -/
theorem report_settingOutOfRange (setting : String) (property : Value) :
    (settingOutOfRange setting property).report .identity =
      refusalReport setting property "out of range" :=
  report_of_refusal rfl rfl (fun _ _ => rfl) rfl rfl

end Fault

end ProtectionLimits
