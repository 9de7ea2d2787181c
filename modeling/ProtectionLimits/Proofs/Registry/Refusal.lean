import Mathlib.Algebra.Group.Int.Defs
import ProtectionLimits.Proofs.Fault.Untranslated
import ProtectionLimits.Proofs.Registry.Bootstrap

/-!
Contract: what the three ways of setting a limit refuse.

Owns refusals as a caller sees them, the refusal of each setting in the order of the
checks, and that a setting raises exactly its refusal, at every level of the log. A
refusal is read off the table and the arguments: whether a setting is accepted never
depends on what has been set before, and one that the gate turns away is not
refused. Nothing changes behind a refusal, and nothing is written. A refusal names what it
refuses; where that has no text, asking for the text fails and this is raised instead.
-/

set_option autoImplicit false

namespace ProtectionLimits

/-- What a caller sees of an error: its class, and the property and the setting that a
number error carries. -/
structure Refusal where
  errorClass : ErrorClass
  carried : Option (Value × Value)

/-- A refusal, or what is raised in its place where something that its message shows has no text. -/
def Refusal.unless (hindrance : Option Unwritable) (refusal : Refusal) : Refusal :=
  match hindrance with
  | some reason => ⟨.ofName reason.className, none⟩
  | none => refusal

namespace Fault

/-- The refusal that a failure comes to while no translation is active. -/
def refusal (fault : Fault) : Refusal :=
  .unless fault.hindrance? ⟨fault.errorClass, fault.number?⟩

/-- A report gives away a refusal. -/
def Report.refusal (report : Report) : Refusal := ⟨report.errorClass, report.number⟩

theorem refusal_report {translation : Translation}
    (untranslated : translation.isActive = false) (fault : Fault) :
    (fault.report translation.message).refusal = fault.refusal := by
  rw [refusal]
  cases hindrance : fault.hindrance? with
  | some reason =>
      rw [fault.report_of_hindrance untranslated hindrance]
      rfl
  | none =>
      obtain ⟨text, reported⟩ := Fault.exists_report untranslated hindrance
      rw [reported]
      rfl

/-! ### What messages show -/

/-- A number error shows the text that it refuses and the property that the text was for. -/
theorem refusal_of_number {fault : Fault} {wording : Wording} {content : String}
    {property : Value}
    (worded : fault.worded? = some (wording, [.text content, .value property]))
    (isNumber : fault.errorClass = .limitsNumber)
    (carried : fault.number? = some (property, .text content)) :
    fault.refusal = .unless property.unwritable?
      ⟨.limitsNumber, some (property, .text content)⟩ := by
  have isText : (Exhibit.text content).unwritable? = none := rfl
  rw [Fault.refusal, isNumber, carried]
  simp only [Fault.hindrance?, worded, List.findSome?_cons, List.findSome?_nil, isText,
    Exhibit.unwritable?_value]
  cases property.unwritable? <;> rfl

theorem refusal_limitIndex (index : Value) :
    (limitIndex index).refusal = .unless index.unwritable? ⟨.limitsValue, none⟩ := by
  simp only [refusal, hindrance?, worded?, List.findSome?_cons, List.findSome?_nil,
    Exhibit.unwritable?_value]
  cases index.unwritable? <;> rfl

theorem refusal_limitUnmanaged (target : Target) (shown : Exhibit) :
    (limitUnmanaged target shown).refusal =
      .unless (target.exhibit.unwritable?.or shown.unwritable?) ⟨.limitsValue, none⟩ := by
  simp only [refusal, hindrance?, worded?, List.findSome?_cons, List.findSome?_nil]
  cases target.exhibit.unwritable? with
  | some reason => rfl
  | none => cases shown.unwritable? <;> rfl

end Fault

/-- The refusal that a result comes to, if it is a failure. -/
def Refusal.of? {Result : Type} : Except Fault Result → Option Refusal
  | .ok _ => none
  | .error fault => some fault.refusal

theorem Refusal.of?_map {First Second : Type} (convert : First → Second)
    (result : Except Fault First) : of? (result.map convert) = of? result := by
  cases result <;> rfl

/-- Whether a limit of the table is the very object that is named. -/
def Target.isAmong (limits : List Limit) : Target → Bool
  | item limit => limits.any fun other => other.identity == limit.identity
  | _ => false

namespace Registry

def Outcome.refusal? (translate : Translator) (outcome : Outcome) : Option Refusal :=
  match outcome.result with
  | .ok _ => none
  | .error fault => some (fault.report translate).refusal

/-- An outcome that gives back something else, unless it failed. -/
def Outcome.returning (reply : Reply) (outcome : Outcome) : Outcome :=
  { outcome with result := outcome.result.map fun _ => reply }

/-! ### The refusal of each setting -/

/-- The limit that an index addresses. There is no counting from the end. -/
def limitIndexed? (limits : List Limit) (index : Value) : Option Limit :=
  (positionIndexed? limits index).bind fun position => limits[position]?

/-- The refusal of a setting for a property. Its message shows the property. -/
def settingRefusal? (property : Value) : Value → Option Refusal
  | .int _ => none
  | .text content =>
      if (Setting.value? (.text content)).isSome then none
      else some (.unless property.unwritable? ⟨.limitsNumber, some (property, .text content)⟩)
  | _ => some ⟨.limitsType, none⟩

def indexedRefusal? (limits : List Limit) (index : Value) (provenance : Provenance)
    (setting : Value) : Option Refusal :=
  match provenance with
  | .other _ => some ⟨.limitsType, none⟩
  | .state _ =>
      if addressesEntityCounts index then none
      else
        match limitIndexed? limits index with
        | some limit => settingRefusal? limit.apiProperty setting
        | none => some (.unless index.unwritable? ⟨.limitsValue, none⟩)

/-- The refusal of a value for a limit. What is no limit of the table is shown, and so is the
registry. -/
def itemRefusal? (limits : List Limit) (shown : Exhibit) (target : Target)
    (provenance : Provenance) (value : Value) : Option Refusal :=
  match provenance, value with
  | .state _, .int _ =>
      if target.isAmong limits then none
      else some (.unless (target.exhibit.unwritable?.or shown.unwritable?) ⟨.limitsValue, none⟩)
  | _, _ => some ⟨.limitsType, none⟩

/-! ### What the checks come to -/

theorem refusalOf_parse (property setting : Value) :
    Refusal.of? (Setting.parse property setting) = settingRefusal? property setting := by
  cases setting with
  | text content =>
      rw [settingRefusal?]
      cases accepted : Setting.value? (.text content) with
      | some value =>
          rw [Setting.parse_of_value? property accepted]
          rfl
      | none =>
          obtain ⟨fault, refused⟩ := Setting.exists_parse_error property accepted
          rw [refused]
          rcases Setting.parse_text_error refused with rfl | rfl
          · exact congrArg some (Fault.refusal_of_number rfl rfl rfl)
          · exact congrArg some (Fault.refusal_of_number rfl rfl rfl)
  | int value => rfl
  | _ =>
      rw [Setting.parse_of_other]
      · rfl
      · exact nofun
      · exact nofun

theorem refusalOf_decideIndexed (limits : List Limit) (index : Value) (provenance : Provenance)
    (setting : Value) :
    Refusal.of? (decideIndexed limits index provenance setting) =
      indexedRefusal? limits index provenance setting := by
  cases provenance with
  | other other => rfl
  | state state =>
      rw [decideIndexed, indexedRefusal?, limitIndexed?]
      split
      · rfl
      · cases found : positionIndexed? limits index with
        | some position =>
            have held := List.getElem?_eq_getElem (positionIndexed?_eq_some_iff.1 found).2
            simp only [held, Option.elim_some, Option.bind_some]
            rw [Refusal.of?_map, refusalOf_parse]
        | none => exact congrArg some (Fault.refusal_limitIndex index)

theorem isSome_positionOfTarget? (limits : List Limit) (target : Target) :
    (positionOfTarget? limits target).isSome = target.isAmong limits := by
  cases target with
  | item limit =>
      rw [Bool.eq_iff_iff, ← not_iff_not, Bool.not_eq_true, Bool.not_eq_true,
        Option.isSome_eq_false_iff, Option.isNone_iff_eq_none, positionOfTarget?,
        lastPosition?_eq_none_iff, Target.isAmong, List.any_eq_false]
      simp only [Bool.not_eq_true]
  | _ => rfl

theorem refusalOf_decideItem (limits : List Limit) (shown : Exhibit) (target : Target)
    (provenance : Provenance) (value : Value) :
    Refusal.of? (decideItem limits shown target provenance value) =
      itemRefusal? limits shown target provenance value := by
  cases provenance with
  | other other => rfl
  | state state =>
      cases value with
      | int value =>
          rw [itemRefusal?, ← isSome_positionOfTarget?, decideItem]
          cases positionOfTarget? limits target with
          | some position => rfl
          | none => exact congrArg some (Fault.refusal_limitUnmanaged target shown)
      | _ => rfl

/-! ### At a level of the log -/

/-- All events of a setting can be written, whatever the table holds. -/
theorem isShown_of_isSetting {registry : Registry} {call : Call Target} {reply : Reply}
    {change : Change} (isSetting : call.IsSetting)
    (accepted : registry.perform call = .ok (reply, change)) :
    ∀ event ∈ change.events, event.IsShown := by
  refine isShown_perform ?_ accepted
  rintro secure rfl
  exact isSetting.elim

/-- Without a translation a setting raises what its checks come to. -/
theorem refusal?_perform {translation : Translation}
    (untranslated : translation.isActive = false) {call : Call Target}
    (isSetting : call.IsSetting) (registry : Registry) (level : Int) :
    ((Form.sound registry).perform level call).refusal? translation.message =
      Refusal.of? (registry.perform call) := by
  rw [Form.perform]
  cases performed : registry.perform call with
  | error fault =>
      rw [performSound_of_error performed]
      exact congrArg some (Fault.refusal_report untranslated fault)
  | ok made =>
      rw [performSound_of_isShown performed (isShown_of_isSetting isSetting performed)]
      rfl

/-- A name that is not known is not refused either. -/
theorem perform_named_of_unknown {registry : Registry} {name : Value}
    (unknown : registry.indexOf name = -1) (level : Int) (provenance : Provenance)
    (setting : Value) :
    (Form.sound registry).perform level (.named name provenance setting) =
      ⟨.sound registry, .ok (.truth false), []⟩ := by
  have decided : Call.decision registry.limits registry.exhibit (.named name provenance setting) =
      .ok (.truth false, .nothing) := by
    rw [Call.decision, decideNamed, ← indexOf_eq, if_pos unknown]
    rfl
  exact form_perform_of_setting decided trivial level

/-- A name that is known stands for its index. -/
theorem perform_named_of_known {registry : Registry} {name : Value}
    (known : registry.indexOf name ≠ -1) (level : Int) (provenance : Provenance)
    (setting : Value) :
    (Form.sound registry).perform level (.named name provenance setting) =
      ((Form.sound registry).perform level
        (.indexed (.int (registry.indexOf name)) provenance setting)).returning
          (.truth true) := by
  have byName : Call.decision registry.limits registry.exhibit (.named name provenance setting) =
      (decideIndexed registry.limits (.int (registry.indexOf name)) provenance setting).map
        fun impact => (.truth true, impact) := by
    rw [Call.decision, decideNamed, ← indexOf_eq, if_neg known]
    cases decideIndexed registry.limits _ provenance setting <;> rfl
  have byIndex : Call.decision registry.limits registry.exhibit
      (.indexed (.int (registry.indexOf name)) provenance setting) =
        (decideIndexed registry.limits (.int (registry.indexOf name)) provenance setting).map
          fun impact => (.nothing, impact) := rfl
  cases decided :
      decideIndexed registry.limits (.int (registry.indexOf name)) provenance setting with
  | error fault =>
      rw [decided] at byName byIndex
      rw [form_perform_of_fault byName, form_perform_of_fault byIndex]
      rfl
  | ok impact =>
      rw [decided] at byName byIndex
      rw [form_perform_of_setting byName trivial, form_perform_of_setting byIndex trivial]
      rfl

/-- A setting that fails changes nothing and writes nothing. -/
theorem eq_of_isSetting_of_error {registry : Registry} {level : Int} {call : Call Target}
    {fault : Fault} (isSetting : call.IsSetting)
    (failed : ((Form.sound registry).perform level call).result = .error fault) :
    (Form.sound registry).perform level call = ⟨.sound registry, .error fault, []⟩ := by
  rw [Form.perform] at failed ⊢
  cases performed : registry.perform call with
  | error other =>
      rw [performSound_of_error performed] at failed ⊢
      cases failed
      rfl
  | ok made =>
      rw [performSound_of_isShown performed (isShown_of_isSetting isSetting performed)] at failed
      cases failed

/-- What each setting refuses while no translation is active, over any table and at any
level of the log. A name is answered with false exactly if it has no index, and else it
stands for its index. A setting by index and a value for a limit raise exactly the refusal
of the first check that fails, or what keeps its message from being made. A setting that raises
or answers false leaves the registry as it was and writes nothing. -/
theorem settings_refuse_exactly {translation : Translation}
    (untranslated : translation.isActive = false) (registry : Registry) (level : Int) :
    (∀ name provenance setting,
      ((Form.sound registry).perform level (.named name provenance setting)).result =
          .ok (.truth false) ↔
        registry.indexOf name = -1) ∧
    (∀ name provenance setting, registry.indexOf name = -1 →
      (Form.sound registry).perform level (.named name provenance setting) =
        ⟨.sound registry, .ok (.truth false), []⟩) ∧
    (∀ name provenance setting, registry.indexOf name ≠ -1 →
      (Form.sound registry).perform level (.named name provenance setting) =
        ((Form.sound registry).perform level
          (.indexed (.int (registry.indexOf name)) provenance setting)).returning
            (.truth true)) ∧
    (∀ index provenance setting,
      ((Form.sound registry).perform level (.indexed index provenance setting)).refusal?
          translation.message =
        indexedRefusal? registry.limits index provenance setting) ∧
    (∀ target provenance value,
      ((Form.sound registry).perform level (.item target provenance value)).refusal?
          translation.message =
        itemRefusal? registry.limits registry.exhibit target provenance value) ∧
    (∀ (call : Call Target) fault, call.IsSetting →
      ((Form.sound registry).perform level call).result = .error fault →
      (Form.sound registry).perform level call = ⟨.sound registry, .error fault, []⟩) := by
  refine ⟨?_, ?_, ?_, ?_, ?_, ?_⟩
  · intro name provenance setting
    constructor
    · intro answersFalse
      by_contra known
      rw [perform_named_of_known known] at answersFalse
      obtain ⟨reply, -, answersTrue⟩ := map_eq_ok answersFalse
      cases answersTrue
    · intro unknown
      rw [perform_named_of_unknown unknown]
  · intro name provenance setting unknown
    exact perform_named_of_unknown unknown level provenance setting
  · intro name provenance setting known
    exact perform_named_of_known known level provenance setting
  · intro index provenance setting
    have isSetting : Call.IsSetting (.indexed index provenance setting) := trivial
    rw [refusal?_perform untranslated isSetting, perform_eq, Refusal.of?_map, Call.decision,
      Refusal.of?_map, refusalOf_decideIndexed]
  · intro target provenance value
    have isSetting : Call.IsSetting (.item target provenance value) := trivial
    rw [refusal?_perform untranslated isSetting, perform_eq, Refusal.of?_map, Call.decision,
      Refusal.of?_map, refusalOf_decideItem]
  · intro call fault isSetting failed
    exact eq_of_isSetting_of_error isSetting failed

/-- The standard registry refuses a text that is no numeral, an index below zero and an
equal limit that is not its own, and answers an unknown name with false. -/
theorem settings_refuse_exactly_standard :
    Translation.initial.isActive = false ∧
    ∃ registry : Registry,
      registry.limits = Limit.standardTable ∧
      ((Form.sound registry).perform 10
          (.named (.text "no limit") (.other .absent) .absent)).result = .ok (.truth false) ∧
      ((Form.sound registry).perform 10
          (.indexed (.int 0) (.state .apiProperty) (.text "1x"))).refusal?
            Translation.initial.message =
        some ⟨.limitsNumber,
          some (StandardLimit.entityExpansion.limit.apiProperty, .text "1x")⟩ ∧
      ((Form.sound registry).perform 10
          (.indexed (.int (-1)) (.state .apiProperty) (.text "1x"))).refusal?
            Translation.initial.message = some ⟨.limitsValue, none⟩ ∧
      ((Form.sound registry).perform 10
          (.item (.stranger StandardLimit.entityExpansion.limit) (.state .apiProperty)
            (.int 1))).refusal? Translation.initial.message = some ⟨.limitsValue, none⟩ := by
  have untranslated : Translation.initial.isActive = false := rfl
  let registry : Registry :=
    ⟨Limit.standardTable.map (Row.initial false), .text "", .bool false, .text "source", .absent⟩
  have table : registry.limits = Limit.standardTable := rfl
  have unknown : registry.indexOf (.text "no limit") = -1 := by decide
  obtain ⟨names, -, -, indexes, items, -⟩ := settings_refuse_exactly untranslated registry 10
  refine ⟨untranslated, registry, table, (names _ _ _).2 unknown, ?_, ?_, ?_⟩
  · rw [indexes, table]
    rfl
  · have hasText : (Value.int (-1)).unwritable? = none := by decide +kernel
    rw [indexes, table, indexedRefusal?, hasText]
    rfl
  · have hasText : (Target.stranger StandardLimit.entityExpansion.limit).exhibit.unwritable? =
        none := by decide +kernel
    have registryHasText : registry.exhibit.unwritable? = none := by decide +kernel
    have isOther : Target.isAmong registry.limits
        (.stranger StandardLimit.entityExpansion.limit) = false := rfl
    rw [items, itemRefusal?, hasText, registryHasText, isOther]
    rfl

/-- An index of more digits than an integer is ever shown with is refused, but what is raised is
that it cannot be shown. -/
theorem settings_refuse_exactly_long_index :
    ∃ (creation : Creation) (registry : Registry),
      (create creation 30).result = .ok registry ∧
      registry.limits = Limit.standardTable ∧
      ((Form.sound registry).perform 30
          (.indexed (.int (10 ^ 5000)) (.state .apiProperty) (.int 1))).refusal?
            Translation.initial.message = some ⟨.standard "ValueError", none⟩ := by
  let creation : Creation :=
    ⟨.bool false, .limits Limit.standardTable, .prepared [], .absent, .absent, []⟩
  obtain ⟨registry, begun⟩ : ∃ registry, (bootstrap creation.source.get creation.source.exhibit
    creation.names creation.secure Limit.standardTable).2 = .ok registry := ⟨_, rfl⟩
  have table := limits_of_bootstrap begun
  refine ⟨creation, registry, begun, table, ?_⟩
  have isSetting : Call.IsSetting
      (.indexed (.int (10 ^ 5000)) (.state .apiProperty) (.int 1) : Call Target) := trivial
  have notAddressed : addressesEntityCounts (.int (10 ^ 5000)) = false := by decide +kernel
  have outside : limitIndexed? Limit.standardTable (.int (10 ^ 5000)) = none := by decide +kernel
  have tooLong : (Value.int (10 ^ 5000)).unwritable? = some Value.tooLong := by decide +kernel
  rw [refusal?_perform rfl isSetting, perform_eq, Refusal.of?_map, Call.decision,
    Refusal.of?_map, refusalOf_decideIndexed, table]
  simp only [indexedRefusal?, notAddressed, outside, tooLong]
  rfl

end Registry

end ProtectionLimits
