import ProtectionLimits.Proofs.Settings

/-!
Contract: what a refresh of a session changes.

Owns how a refresh relates the session before it to the one behind it. A refresh redraws objects
and registries one after the other, so whatever relates a session to itself with one of them
redrawn, and can be joined, relates it to the refreshed one (`refreshed_of_steps`). A redrawn
object is of the same shape and keeps the same, apart from how other things look that it keeps.
So it stays usable and intact, and where every option has a rule it has the same values.

Does not own what anything looks like.
-/

set_option autoImplicit false

namespace ProtectionLimits

/-- Whether a value is a thing that can look different later on. -/
def Value.isThing : Value → Bool
  | .object .. => true
  | _ => false

/-- An option with a rule never holds a thing. -/
theorem OptionRule.isThing_of_accepts {rule : OptionRule} {value : Value}
    (isRule : rule ≠ .free) (accepts : rule.Accepts value) : value.isThing = false := by
  cases rule with
  | free => exact absurd rfl isRule
  | flag =>
      obtain ⟨truth, rfl⟩ := accepts
      rfl
  | level =>
      rcases accepts with rfl | ⟨chosen, isLevel⟩
      · rfl
      · cases value with
        | object number className written => cases isLevel
        | _ => rfl

/-! ### Redrawn objects -/

namespace OptionObject

/-- Whether an object is another one, with the things that it keeps as they look by now. -/
structure IsRedrawn (object redrawn : OptionObject) : Prop where
  shape : redrawn.shape = object.shape
  stored : ∃ look : Value → Value, (∀ value, value.isThing = false → look value = value) ∧
    redrawn.stored = object.stored.map fun entry => (entry.1, look entry.2)

theorem IsRedrawn.refl (object : OptionObject) : object.IsRedrawn object where
  shape := rfl
  stored := ⟨id, fun _ _ => rfl, by simp⟩

theorem IsRedrawn.trans {object middle last : OptionObject} (first : object.IsRedrawn middle)
    (second : middle.IsRedrawn last) : object.IsRedrawn last where
  shape := second.shape.trans first.shape
  stored := by
    obtain ⟨firstLook, firstKeeps, firstStored⟩ := first.stored
    obtain ⟨secondLook, secondKeeps, secondStored⟩ := second.stored
    refine ⟨secondLook ∘ firstLook, ?_, ?_⟩
    · intro value isNoThing
      rw [Function.comp_apply, firstKeeps value isNoThing, secondKeeps value isNoThing]
    · rw [secondStored, firstStored, List.map_map]
      rfl

theorem lookup?_map (key : Value) (look : Value → Value) (entries : List (Value × Value)) :
    Value.lookup? key (entries.map fun entry => (entry.1, look entry.2)) =
      (Value.lookup? key entries).map look := by
  induction entries with
  | nil => rfl
  | cons entry rest inductionHypothesis =>
      obtain ⟨other, value⟩ := entry
      simp only [List.map_cons, Value.lookup?, inductionHypothesis]
      split <;> rfl

section Redrawn

variable {object redrawn : OptionObject}

/-- An option with a rule has the same value in a redrawn object. -/
theorem IsRedrawn.optionValue (drawn : object.IsRedrawn redrawn) {field : OptionField}
    (isRule : field.rule ≠ .free) (accepts : field.rule.Accepts (object.optionValue field)) :
    redrawn.optionValue field = object.optionValue field := by
  obtain ⟨look, keeps, stored⟩ := drawn.stored
  rw [OptionObject.optionValue, OptionField.valueIn, Kept.under?] at accepts
  rw [OptionObject.optionValue, OptionObject.optionValue, OptionField.valueIn,
    OptionField.valueIn, Kept.under?, Kept.under?, stored, lookup?_map]
  cases held : Value.lookup? (.text field.slot) object.stored with
  | none => rfl
  | some value =>
      rw [held, Option.getD_some] at accepts
      exact keeps value (OptionRule.isThing_of_accepts isRule accepts)

theorem IsUsable.of_isRedrawn (usable : object.IsUsable) (drawn : object.IsRedrawn redrawn) :
    redrawn.IsUsable := by
  intro field member
  rw [drawn.shape] at member
  by_cases isRule : field.rule = .free
  · rw [isRule]
    trivial
  · rw [drawn.optionValue isRule (usable field member)]
    exact usable field member

theorem KnowsOptions.of_isRedrawn (knows : object.KnowsOptions)
    (drawn : object.IsRedrawn redrawn) : redrawn.KnowsOptions := by
  obtain ⟨look, -, stored⟩ := drawn.stored
  rw [KnowsOptions, stored?, Kept.under?] at knows
  rw [KnowsOptions, stored?, Kept.under?, stored, lookup?_map, knows, Option.map_none]

theorem IsIntact.of_isRedrawn (intact : object.IsIntact) (drawn : object.IsRedrawn redrawn) :
    redrawn.IsIntact where
  usable := intact.usable.of_isRedrawn drawn
  knowsOptions := intact.knowsOptions.of_isRedrawn drawn

/-- Redrawn settings have the same options. -/
theorem IsRedrawn.values (drawn : object.IsRedrawn redrawn) (usable : object.IsUsable)
    (isSettings : object.shape = .settings) : redrawn.values = object.values := by
  rw [OptionObject.values, OptionObject.values, drawn.shape]
  apply List.map_congr_left
  intro field member
  have isRule : field.rule ≠ .free := by
    rw [isSettings] at member
    simp only [Shape.fields, List.mem_cons, List.not_mem_nil, or_false] at member
    rcases member with rfl | rfl <;> decide
  rw [drawn.optionValue isRule (usable field member)]

end Redrawn

end OptionObject

/-! ### Redrawn stores -/

namespace Settings

/-- Whether a store is another one with its objects redrawn. -/
structure IsRedrawn (settings redrawn : Settings) : Prop where
  defaults : redrawn.defaults = settings.defaults
  objects : ∀ number,
    Option.Rel OptionObject.IsRedrawn (settings.object? number) (redrawn.object? number)

theorem IsRedrawn.refl (settings : Settings) : settings.IsRedrawn settings where
  defaults := rfl
  objects number := by
    cases settings.object? number with
    | none => exact .none
    | some object => exact .some (.refl object)

theorem IsRedrawn.trans {settings middle last : Settings} (first : settings.IsRedrawn middle)
    (second : middle.IsRedrawn last) : settings.IsRedrawn last where
  defaults := second.defaults.trans first.defaults
  objects number := by
    have before := first.objects number
    have behind := second.objects number
    generalize settings.object? number = object at before
    generalize middle.object? number = between at before behind
    generalize last.object? number = other at behind
    cases before with
    | none =>
        cases behind
        exact .none
    | some drawn =>
        cases behind with
        | some drawnAgain => exact .some (drawn.trans drawnAgain)

section Redrawn

variable {settings redrawn : Settings}

theorem IsRedrawn.object? (drawn : settings.IsRedrawn redrawn) {number : Nat}
    {object : OptionObject} (held : settings.object? number = some object) :
    ∃ other, redrawn.object? number = some other ∧ object.IsRedrawn other := by
  have related := drawn.objects number
  rw [held] at related
  generalize redrawn.object? number = found at related
  cases related with
  | some drawnObject => exact ⟨_, rfl, drawnObject⟩

/-- Each redrawn object was there before. -/
theorem IsRedrawn.exists_former (drawn : settings.IsRedrawn redrawn) {other : OptionObject}
    (member : other ∈ redrawn.objects) : ∃ object ∈ settings.objects, object.IsRedrawn other := by
  obtain ⟨number, held⟩ := List.mem_iff_getElem?.1 member
  have related := drawn.objects number
  rw [Settings.object?, Settings.object?, held] at related
  generalize isFormer : settings.objects[number]? = former at related
  cases related with
  | some drawnObject => exact ⟨_, List.mem_of_getElem? isFormer, drawnObject⟩

theorem IsUsable.of_isRedrawn (usable : settings.IsUsable) (drawn : settings.IsRedrawn redrawn) :
    redrawn.IsUsable := by
  intro other member isSettings
  obtain ⟨object, isFormer, drawnObject⟩ := drawn.exists_former member
  rw [drawnObject.shape] at isSettings
  exact (usable object isFormer isSettings).of_isRedrawn drawnObject

theorem KnowsOptions.of_isRedrawn (knowing : settings.KnowsOptions)
    (drawn : settings.IsRedrawn redrawn) : redrawn.KnowsOptions := by
  intro other member
  obtain ⟨object, isFormer, drawnObject⟩ := drawn.exists_former member
  exact (knowing object isFormer).of_isRedrawn drawnObject

theorem IsIntact.of_isRedrawn (intact : settings.IsIntact) (drawn : settings.IsRedrawn redrawn) :
    redrawn.IsIntact := by
  obtain ⟨object, held, isSettings, isIntact⟩ := intact
  obtain ⟨other, found, drawnObject⟩ := drawn.object? held
  refine ⟨other, ?_, drawnObject.shape.trans isSettings, isIntact.of_isRedrawn drawnObject⟩
  rw [drawn.defaults, found]

end Redrawn

end Settings

/-! ### Refreshed sessions -/

namespace Session

theorem foldl_of_steps {Item : Type} {Relates : Session → Session → Prop}
    (same : ∀ session, Relates session session)
    (joined : ∀ {first second third}, Relates first second → Relates second third →
      Relates first third)
    {step : Session → Item → Session} (steps : ∀ session item, Relates session (step session item))
    (items : List Item) (session : Session) : Relates session (items.foldl step session) := by
  induction items generalizing session with
  | nil => exact same session
  | cons item rest inductionHypothesis =>
      exact joined (steps session item) (inductionHypothesis (step session item))

/-- What relates a session to itself with one thing redrawn, and can be joined, relates it to the
refreshed session. -/
theorem refreshed_of_steps (Relates : Session → Session → Prop)
    (same : ∀ session, Relates session session)
    (joined : ∀ {first second third}, Relates first second → Relates second third →
      Relates first third)
    (objects : ∀ session number, Relates session (session.refreshObject number))
    (registries : ∀ session number, Relates session (session.refreshRegistry number))
    (session : Session) : Relates session session.refreshed :=
  joined (foldl_of_steps same joined objects _ session)
    (foldl_of_steps same joined registries _ _)

/-- A refresh leaves trackers alone, and what is held under names. -/
theorem refreshed_keeps (session : Session) :
    session.refreshed.trackers = session.trackers ∧ session.refreshed.held = session.held := by
  refine refreshed_of_steps
    (fun before behind => behind.trackers = before.trackers ∧ behind.held = before.held)
    (fun _ => ⟨rfl, rfl⟩) (fun first second => ⟨second.1.trans first.1, second.2.trans first.2⟩)
    ?_ ?_ session
  · intro session number
    rw [refreshObject]
    split <;> exact ⟨rfl, rfl⟩
  · intro session number
    rw [refreshRegistry]
    split <;> exact ⟨rfl, rfl⟩

theorem isRedrawn_refreshObject (session : Session) (number : Nat) :
    session.settings.IsRedrawn (session.refreshObject number).settings := by
  rw [refreshObject]
  cases held : session.settings.object? number with
  | none => exact .refl session.settings
  | some object =>
      refine ⟨rfl, fun other => ?_⟩
      -- Only the object of this number is drawn again, and in it only things look different.
      by_cases same : number = other
      · subst same
        rw [held, Settings.object?_replace_self held]
        refine .some ⟨rfl, session.presentValue, ?_, rfl⟩
        intro value isNoThing
        cases value with
        | object => cases isNoThing
        | _ => rfl
      · dsimp only
        rw [Settings.object?_replace_of_ne same]
        exact (Settings.IsRedrawn.refl session.settings).objects other

theorem isRedrawn_refreshed (session : Session) :
    session.settings.IsRedrawn session.refreshed.settings := by
  refine refreshed_of_steps
    (fun before behind => before.settings.IsRedrawn behind.settings)
    (fun session => .refl session.settings) (fun first second => first.trans second)
    isRedrawn_refreshObject ?_ session
  intro session number
  rw [refreshRegistry]
  split <;> exact .refl session.settings

end Session

end ProtectionLimits
