import ProtectionLimits.Proofs.Options
import ProtectionLimits.Session.Held

/-!
Contract: the store of settings under the calls about it.

Owns the calls about the store and what they do to it. A call adds one object to the store, or
changes one that is there; only an update and a reset let the default settings be another object,
and that is always the one that they have added. Three things last: the settings in a store stay
usable as long as nothing is assigned to the names that they have for themselves (`IsUsable`), all
objects know their options as long as nothing is assigned to reserved names (`KnowsOptions`), and
the default settings stay intact as long as no call is about them (`IsIntact`).

Does not own how a caller names the objects that a call is about.
-/

set_option autoImplicit false

namespace ProtectionLimits.Settings

/-- A call about the store of settings, with all that it is given. -/
inductive Operation where
  | make (shape : Shape) (positional : List Value) (keywords : List (String × Value))
  | derive (base : Base) (keywords : List (String × Value))
  | updateDefaults (base : Base) (keywords : List (String × Value))
  | resetDefaults
  | assign (number : Nat) (name : String) (value : Value)
  | delete (number : Nat) (name : String)

/-- The store behind a call. -/
def perform (settings : Settings) : Operation → Except Fault Settings
  | .make shape positional keywords =>
      (OptionObject.make shape positional keywords).map fun object => (settings.add object).2
  | .derive base keywords =>
      (settings.derived base keywords).map fun object => (settings.add object).2
  | .updateDefaults base keywords => settings.updateDefaults base keywords
  | .resetDefaults => .ok settings.resetDefaults
  | .assign number name value =>
      (Session.changeAt settings.objects number fun object => object.assign name value).map
        fun objects => { settings with objects := objects }
  | .delete number name =>
      (Session.changeAt settings.objects number fun object => object.delete name).map
        fun objects => { settings with objects := objects }

/-- The store with one more object, which becomes the default settings. -/
def install (settings : Settings) (object : OptionObject) : Settings :=
  { (settings.add object).2 with defaults := settings.objects.length }

/-- Whether what a caller names as a base is one: the default settings, or settings. -/
def IsBase (settings : Settings) : Base → Prop
  | .settings number => ∃ object, settings.object? number = some object ∧ object.shape = .settings
  | _ => True

def Operation.HasBase (settings : Settings) : Operation → Prop
  | .derive base _ => settings.IsBase base
  | .updateDefaults base _ => settings.IsBase base
  | _ => True

def Operation.sparesPrivate : Operation → Bool
  | .assign _ name _ => !Shape.settings.isPrivate name
  | _ => true

def Operation.sparesReserved : Operation → Bool
  | .assign _ name _ => !isReserved name
  | _ => true

/-- The number of the object that a call gives something to or takes something from. -/
def Operation.changed? : Operation → Option Nat
  | .assign number _ _ => some number
  | .delete number _ => some number
  | _ => none

/-- Whether a call lets the default settings be another object. -/
def Operation.installs : Operation → Bool
  | .updateDefaults _ _ => true
  | .resetDefaults => true
  | _ => false

def IsUsable (settings : Settings) : Prop :=
  ∀ object ∈ settings.objects, object.shape = .settings → object.IsUsable

/-- Whether all objects of the store know their options. -/
def KnowsOptions (settings : Settings) : Prop :=
  ∀ object ∈ settings.objects, object.KnowsOptions

/-- Whether the default settings of the store are settings, and intact. -/
def IsIntact (settings : Settings) : Prop :=
  ∃ object, settings.object? settings.defaults = some object ∧ object.shape = .settings ∧
    object.IsIntact

/-! ### Objects by number -/

section Numbers

variable {settings : Settings} {number : Nat} {object : OptionObject}

theorem lt_of_object? (held : settings.object? number = some object) :
    number < settings.objects.length :=
  (List.getElem?_eq_some_iff.1 held).1

/-- An object that is there already is the same in a store with one more. -/
theorem object?_add (held : settings.object? number = some object) (added : OptionObject) :
    (settings.add added).2.object? number = some object :=
  (List.getElem?_append_left (lt_of_object? held)).trans held

theorem object?_add_new (settings : Settings) (added : OptionObject) :
    (settings.add added).2.object? settings.objects.length = some added :=
  List.getElem?_concat_length

theorem object?_replace_self (held : settings.object? number = some object)
    (changed : OptionObject) : (settings.replace number changed).object? number = some changed :=
  List.getElem?_set_self (lt_of_object? held)

theorem object?_replace_of_ne {other : Nat} (distinct : number ≠ other)
    (changed : OptionObject) :
    (settings.replace number changed).object? other = settings.object? other :=
  List.getElem?_set_ne distinct

end Numbers

/-! ### New settings -/

section Calls

variable {settings : Settings}

theorem derived_eq_ok {base : Base} {keywords : List (String × Value)} {object : OptionObject}
    (made : settings.derived base keywords = .ok object) :
    ∃ held, settings.base base = .ok held ∧ held.derive keywords = .ok object := by
  unfold derived at made
  split at made
  · cases made
  · cases found : settings.base base with
    | error fault =>
        rw [found] at made
        cases made
    | ok held =>
        rw [found] at made
        exact ⟨held, rfl, made⟩

/-- An update installs new settings that are derived from a base. -/
theorem updateDefaults_eq_ok {base : Base} {keywords : List (String × Value)} {after : Settings}
    (done : settings.updateDefaults base keywords = .ok after) :
    ∃ object, settings.derived base keywords = .ok object ∧ after = settings.install object := by
  unfold updateDefaults at done
  split at done
  · cases done
  · obtain ⟨object, made, same⟩ := Registry.map_eq_ok done
    exact ⟨object, made, same.symm⟩

/-! ### What a call can do -/

/-- A change at a number is a change of the item there, if there is one. -/
theorem changeAt_eq_ok {Item : Type} {items changed : List Item} {number : Nat}
    {change : Item → Except Fault Item}
    (done : Session.changeAt items number change = .ok changed) :
    changed = items ∨ ∃ item other, items[number]? = some item ∧ change item = .ok other ∧
      changed = items.set number other := by
  unfold Session.changeAt at done
  split at done
  · cases done
    exact .inl rfl
  · rename_i item held
    obtain ⟨other, made, same⟩ := Registry.map_eq_ok done
    exact .inr ⟨item, other, held, made, same.symm⟩

/-- A change at a number leaves what is at other numbers alone. -/
theorem object?_changeAt {other number : Nat} {objects : List OptionObject}
    {change : OptionObject → Except Fault OptionObject} (distinct : other ≠ number)
    (done : Session.changeAt settings.objects other change = .ok objects) :
    object? { settings with objects := objects } number = settings.object? number := by
  rcases changeAt_eq_ok done with rfl | ⟨_, changed, -, -, rfl⟩
  · rfl
  · exact object?_replace_of_ne distinct changed

/-- A call changes no object that was there, but the one that it is about. -/
theorem object?_perform {operation : Operation} {after : Settings}
    (done : settings.perform operation = .ok after) {number : Nat} {object : OptionObject}
    (spared : operation.changed? ≠ some number) (held : settings.object? number = some object) :
    after.object? number = some object := by
  cases operation with
  | make shape positional keywords =>
      obtain ⟨made, -, rfl⟩ := Registry.map_eq_ok done
      exact object?_add held made
  | derive base keywords =>
      obtain ⟨made, -, rfl⟩ := Registry.map_eq_ok done
      exact object?_add held made
  | updateDefaults base keywords =>
      obtain ⟨made, -, rfl⟩ := updateDefaults_eq_ok done
      exact object?_add held made
  | resetDefaults =>
      cases done
      exact object?_add held initialObject
  | assign other name value =>
      obtain ⟨objects, changed, rfl⟩ := Registry.map_eq_ok done
      have distinct : other ≠ number := fun same => spared (same ▸ rfl)
      exact (object?_changeAt distinct changed).trans held
  | delete other name =>
      obtain ⟨objects, changed, rfl⟩ := Registry.map_eq_ok done
      have distinct : other ≠ number := fun same => spared (same ▸ rfl)
      exact (object?_changeAt distinct changed).trans held

/-- What a call installs is new. -/
theorem defaults_perform {operation : Operation} {after : Settings}
    (done : settings.perform operation = .ok after) :
    after.defaults =
      if operation.installs then settings.objects.length else settings.defaults := by
  cases operation with
  | updateDefaults base keywords =>
      obtain ⟨made, -, rfl⟩ := updateDefaults_eq_ok done
      rfl
  | resetDefaults =>
      cases done
      rfl
  | make | derive | assign | delete =>
      obtain ⟨_, -, rfl⟩ := Registry.map_eq_ok done
      rfl

/-! ### Usable settings -/

theorem isUsable_initialObject : initialObject.IsUsable := by
  intro field member
  simp only [initialObject, Shape.fields, List.mem_cons, List.not_mem_nil, or_false] at member
  rcases member with rfl | rfl
  · exact ⟨false, rfl⟩
  · exact .inl rfl

theorem isUsable_initial : initial.IsUsable := by
  intro object member _
  rw [initial, List.mem_singleton] at member
  exact member ▸ isUsable_initialObject

theorem IsUsable.add (usable : settings.IsUsable) {object : OptionObject}
    (isUsable : object.IsUsable) : (settings.add object).2.IsUsable := by
  simp only [IsUsable, Settings.add, List.forall_mem_append, List.forall_mem_singleton]
  exact ⟨usable, fun _ => isUsable⟩

/-- What holds of all objects holds behind a change of one of them that keeps it. -/
theorem forall_changeAt {Holds : OptionObject → Prop} {objects changed : List OptionObject}
    (held : ∀ object ∈ objects, Holds object) {number : Nat}
    {change : OptionObject → Except Fault OptionObject}
    (keeps : ∀ object other, Holds object → change object = .ok other → Holds other)
    (done : Session.changeAt objects number change = .ok changed) :
    ∀ object ∈ changed, Holds object := by
  rcases changeAt_eq_ok done with rfl | ⟨object, other, isHeld, made, rfl⟩
  · exact held
  · intro member isMember
    rcases List.mem_or_eq_of_mem_set isMember with old | rfl
    · exact held member old
    · exact keeps object member (held object (List.mem_of_getElem? isHeld)) made

/-- Settings stay usable under every call that assigns nothing to the names that they have for
themselves. -/
theorem isUsable_perform (usable : settings.IsUsable) {operation : Operation}
    (spares : operation.sparesPrivate = true) {after : Settings}
    (done : settings.perform operation = .ok after) : after.IsUsable := by
  cases operation with
  | make shape positional keywords =>
      obtain ⟨object, made, rfl⟩ := Registry.map_eq_ok done
      exact usable.add (OptionObject.make_eq_ok made).2.1.usable
  | derive base keywords =>
      obtain ⟨object, made, rfl⟩ := Registry.map_eq_ok done
      obtain ⟨held, -, derived⟩ := derived_eq_ok made
      exact usable.add (OptionObject.isIntact_of_derive derived).2.usable
  | updateDefaults base keywords =>
      obtain ⟨object, made, rfl⟩ := updateDefaults_eq_ok done
      obtain ⟨held, -, derived⟩ := derived_eq_ok made
      exact usable.add (OptionObject.isIntact_of_derive derived).2.usable
  | resetDefaults =>
      cases done
      exact usable.add isUsable_initialObject
  | assign number name value =>
      obtain ⟨objects, changed, rfl⟩ := Registry.map_eq_ok done
      refine forall_changeAt usable (fun object assigned isUsable accepted isSettings => ?_) changed
      rw [OptionObject.shape_of_assign accepted] at isSettings
      have isOther : object.shape.isPrivate name = false := by
        rw [isSettings]
        simpa [Operation.sparesPrivate] using spares
      exact OptionObject.isUsable_assign (isUsable isSettings) isOther accepted
  | delete number name =>
      obtain ⟨objects, changed, rfl⟩ := Registry.map_eq_ok done
      refine forall_changeAt usable (fun object left isUsable deleted isSettings => ?_) changed
      rw [OptionObject.shape_of_delete deleted] at isSettings
      exact OptionObject.isUsable_delete (isUsable isSettings) deleted

/-! ### Objects that know their options -/

theorem knowsOptions_initial : initial.KnowsOptions := by
  intro object member
  rw [initial, List.mem_singleton] at member
  subst member
  rfl

theorem KnowsOptions.add (knowing : settings.KnowsOptions) {object : OptionObject}
    (knows : object.KnowsOptions) : (settings.add object).2.KnowsOptions := by
  simp only [KnowsOptions, Settings.add, List.forall_mem_append, List.forall_mem_singleton]
  exact ⟨knowing, knows⟩

/-- Objects know their options behind every call that assigns nothing to reserved names. -/
theorem knowsOptions_perform (knowing : settings.KnowsOptions) {operation : Operation}
    (spares : operation.sparesReserved = true) {after : Settings}
    (done : settings.perform operation = .ok after) : after.KnowsOptions := by
  cases operation with
  | make shape positional keywords =>
      obtain ⟨object, made, rfl⟩ := Registry.map_eq_ok done
      exact knowing.add (OptionObject.make_eq_ok made).2.1.knowsOptions
  | derive base keywords =>
      obtain ⟨object, made, rfl⟩ := Registry.map_eq_ok done
      obtain ⟨held, -, derived⟩ := derived_eq_ok made
      exact knowing.add (OptionObject.isIntact_of_derive derived).2.knowsOptions
  | updateDefaults base keywords =>
      obtain ⟨object, made, rfl⟩ := updateDefaults_eq_ok done
      obtain ⟨held, -, derived⟩ := derived_eq_ok made
      exact knowing.add (OptionObject.isIntact_of_derive derived).2.knowsOptions
  | resetDefaults =>
      cases done
      exact knowing.add rfl
  | assign number name value =>
      obtain ⟨objects, changed, rfl⟩ := Registry.map_eq_ok done
      have notReserved : isReserved name = false := by
        simpa [Operation.sparesReserved] using spares
      exact forall_changeAt knowing (fun _ _ knows accepted =>
        OptionObject.knowsOptions_assign knows notReserved accepted) changed
  | delete number name =>
      obtain ⟨objects, changed, rfl⟩ := Registry.map_eq_ok done
      exact forall_changeAt knowing (fun _ _ knows deleted =>
        OptionObject.knowsOptions_delete knows deleted) changed

/-! ### Intact default settings -/

theorem isIntact_initialObject : initialObject.IsIntact where
  usable := isUsable_initialObject
  knowsOptions := rfl

theorem isIntact_initial : initial.IsIntact :=
  ⟨initialObject, rfl, rfl, isIntact_initialObject⟩

theorem IsIntact.defaultObject (intact : settings.IsIntact) :
    settings.object? settings.defaults = some settings.defaultObject ∧
      settings.defaultObject.shape = .settings ∧ settings.defaultObject.IsIntact := by
  obtain ⟨object, held, shape, isIntact⟩ := intact
  have same : settings.defaultObject = object := by
    rw [Settings.defaultObject, held, Option.getD_some]
  rw [same]
  exact ⟨held, shape, isIntact⟩

theorem isIntact_install (settings : Settings) {object : OptionObject}
    (isSettings : object.shape = .settings) (isIntact : object.IsIntact) :
    (settings.install object).IsIntact :=
  ⟨object, object?_add_new settings object, isSettings, isIntact⟩

/-- What counts as the base of new settings is settings. -/
theorem shape_of_base (intact : settings.IsIntact) {base : Base} (isBase : settings.IsBase base)
    {object : OptionObject} (found : settings.base base = .ok object) :
    object.shape = .settings := by
  cases base with
  | defaults =>
      cases found
      exact intact.defaultObject.2.1
  | settings number =>
      obtain ⟨held, isHeld, shape⟩ := isBase
      simp only [Settings.base, isHeld, Option.getD_some] at found
      cases found
      exact shape
  | other given => cases found

theorem knowsOptions_of_base (intact : settings.IsIntact) (knowing : settings.KnowsOptions)
    {base : Base} (isBase : settings.IsBase base) {object : OptionObject}
    (found : settings.base base = .ok object) : object.KnowsOptions := by
  cases base with
  | defaults =>
      cases found
      exact intact.defaultObject.2.2.knowsOptions
  | settings number =>
      obtain ⟨held, isHeld, -⟩ := isBase
      simp only [Settings.base, isHeld, Option.getD_some] at found
      cases found
      exact knowing _ (List.mem_of_getElem? isHeld)
  | other given => cases found

/-- What new settings hold: what is given for them, and otherwise what their base holds. -/
theorem values_of_derived (intact : settings.IsIntact) (knowing : settings.KnowsOptions)
    {base : Base} (isBase : settings.IsBase base) {keywords : List (String × Value)}
    {object : OptionObject} (made : settings.derived base keywords = .ok object) :
    ∃ held, settings.base base = .ok held ∧ object.shape = .settings ∧ object.IsIntact ∧
      object.values = OptionObject.overridden held.values keywords := by
  obtain ⟨held, isHeld, derived⟩ := derived_eq_ok made
  have shape := shape_of_base intact isBase isHeld
  have knows := knowsOptions_of_base intact knowing isBase isHeld
  have rewritable : held.shape.isRewritable = true := by rw [shape]; rfl
  obtain ⟨sameShape, isIntact⟩ := OptionObject.isIntact_of_derive derived
  exact ⟨held, isHeld, sameShape.trans shape, isIntact,
    OptionObject.values_of_derive knows rewritable derived⟩

/-- The default settings stay intact under every call that is not about them. -/
theorem isIntact_perform (intact : settings.IsIntact) {operation : Operation}
    (hasBase : operation.HasBase settings) (spared : operation.changed? ≠ some settings.defaults)
    {after : Settings} (done : settings.perform operation = .ok after) : after.IsIntact := by
  -- What installs nothing leaves the default settings under their number, and as they were.
  have kept (same : operation.installs = false) : after.IsIntact := by
    obtain ⟨object, held, isSettings, isIntact⟩ := intact
    have isDefaults := defaults_perform done
    rw [same, if_neg Bool.false_ne_true] at isDefaults
    exact ⟨object, isDefaults ▸ object?_perform done spared held, isSettings, isIntact⟩
  cases operation with
  | updateDefaults base keywords =>
      obtain ⟨object, made, rfl⟩ := updateDefaults_eq_ok done
      obtain ⟨held, isHeld, derived⟩ := derived_eq_ok made
      obtain ⟨sameShape, isIntact⟩ := OptionObject.isIntact_of_derive derived
      have isSettings := sameShape.trans (shape_of_base intact hasBase isHeld)
      exact isIntact_install settings isSettings isIntact
  | resetDefaults =>
      cases done
      exact isIntact_install settings rfl isIntact_initialObject
  | make | derive | assign | delete => exact kept rfl

end Calls

end ProtectionLimits.Settings
