import ProtectionLimits.Proofs.Options
import ProtectionLimits.Session.Held

/-!
Contract: what the options of objects come to over any attempts to change them.

Owns objects of classes with any options, steps that try to assign or delete one option of one
object, and histories of such steps. An option with a slot of its own either can take a value or
refuses any, and by that a single assignment is decided. `slot_after` says what a step leaves in
the slot of an option, and `slot_afterAll` says it of a history: of the values that were tried on
the option and accepted, the first one where it is fixed, and the last one where it can be changed.
From this follows what the option holds, and how it answers to a further attempt. The objects that
a session holds are such objects, and take such steps.

Does not own attempts under names that are none of an option, by which a caller can reach a slot
without any rule. Of options that share a slot it owns an example only.
-/

set_option autoImplicit false

namespace ProtectionLimits.OptionClass

/-- An object of any class with options: its class, and what it keeps. -/
structure Instance where
  owner : OptionClass
  kept : Kept Value

/-- What can be tried on an option. -/
inductive Attempt where
  | assign (value : Value)
  | delete

def Attempt.value? : Attempt → Option Value
  | assign value => some value
  | delete => none

/-- An attempt on the option of a name, of the object of a number. -/
structure Step where
  number : Nat
  name : String
  attempt : Attempt

def Instance.attempted (object : Instance) (name : String) : Attempt → Except Fault Instance
  | .assign value =>
      (object.owner.assign object.kept name value).map fun kept => { object with kept := kept }
  | .delete => (object.owner.delete object.kept name).map fun kept => { object with kept := kept }

/-- Whether an object has just been made: values were assigned to some of its options, in order,
and it keeps nothing else. -/
structure Instance.IsNew (object : Instance) (given : List (String × Value)) : Prop where
  options : ∀ entry ∈ given, ∃ field ∈ object.owner.fields, field.name = entry.1
  made : object.owner.assignAll [] given = .ok object.kept

namespace Step

def perform (step : Step) (objects : List Instance) : Except Fault (List Instance) :=
  Session.changeAt objects step.number fun object => object.attempted step.name step.attempt

def after (objects : List Instance) (step : Step) : List Instance :=
  (step.perform objects).toOption.getD objects

def IsOn (step : Step) (objects : List Instance) : Prop :=
  ∃ object field, objects[step.number]? = some object ∧ field ∈ object.owner.fields ∧
    field.name = step.name

/-- The value that a step tries on the option of a name, of the object of a number. -/
def valueFor? (number : Nat) (name : String) (step : Step) : Option Value :=
  if step.number = number ∧ step.name = name then step.attempt.value? else none

/-- Whether a step fails with an error that is reported under one of some classes while no
translation is active, and changes nothing. -/
def Fails (step : Step) (objects : List Instance) (classes : List ErrorClass) : Prop :=
  (∃ fault, step.perform objects = .error fault ∧
      (fault.report .identity).errorClass ∈ classes) ∧
    after objects step = objects

/-- Whether a step succeeds and gives its option a value, and changes no other option and no other
object. -/
structure Sets (step : Step) (objects : List Instance) (value : Value) : Prop where
  done : step.perform objects = .ok (after objects step)
  option : ∃ object kept, objects[step.number]? = some object ∧
    (after objects step)[step.number]? = some ⟨object.owner, kept⟩ ∧
    object.owner.read kept step.name = .ok value ∧
    ∀ other ∈ object.owner.fields, other.name ≠ step.name →
      object.owner.read kept other.name = object.owner.read object.kept other.name
  others : ∀ number, number ≠ step.number → (after objects step)[number]? = objects[number]?

end Step

def afterAll (objects : List Instance) (steps : List Step) : List Instance :=
  steps.foldl Step.after objects

/-- The values that a history tries on the option of a name, of the object of a number. -/
def valuesFor (number : Nat) (name : String) (steps : List Step) : List Value :=
  steps.filterMap (Step.valueFor? number name)

/-- The values that some assignments give to a name. -/
def valuesOf (name : String) (given : List (String × Value)) : List Value :=
  (given.filter fun entry => entry.1 == name).map Prod.snd

def accepted (field : OptionField) (values : List Value) : List Value :=
  values.filter fun value => field.rule.Accepts value

/-- What stands in the slot of an option behind some values that it accepts: the last one where it
can be changed, and otherwise what was there before, or the first one. -/
def settled (label : OptionLabel) (held : Option Value) (values : List Value) : Option Value :=
  if label.owner.isRewritable then values.getLast?.or held else held.or values.head?

theorem settled_append (label : OptionLabel) (held : Option Value) (first second : List Value) :
    settled label held (first ++ second) = settled label (settled label held first) second := by
  unfold settled
  split
  · rw [List.getLast?_append, Option.or_assoc]
  · rw [List.head?_append, Option.or_assoc]

theorem settled_nil (label : OptionLabel) (held : Option Value) : settled label held [] = held := by
  simp [settled]

/-! ### One assignment -/

section Assignment

variable {label : OptionLabel} {kept : Kept Value}

/-- Whether an option can take a value: it can be changed, or it has none. -/
def IsOpen (label : OptionLabel) (kept : Kept Value) : Prop :=
  label.owner.isRewritable = true ∨ kept.under? label.field.slot = none

theorem not_isOpen_iff :
    ¬ IsOpen label kept ↔
      label.owner.isRewritable = false ∧ kept.under? label.field.slot ≠ none := by
  rw [IsOpen, not_or, Bool.not_eq_true]

/-- An option that cannot take a value refuses any before it is looked at. -/
theorem assign_of_not_isOpen (isTaken : ¬ IsOpen label kept) (value : Value) :
    label.assign kept value = .error (.optionFixed label) := by
  obtain ⟨fixed, taken⟩ := not_isOpen_iff.1 isTaken
  simp [OptionLabel.assign, OptionLabel.accept, fixed, Option.isSome_iff_ne_none.2 taken,
    Except.map]

/-- An option that can take a value does so if it accepts it. -/
theorem assign_of_isOpen (isOpen : IsOpen label kept) (value : Value) :
    label.assign kept value =
      (label.field.rule.check label value).map fun _ => kept.enter label.field.slot value := by
  rcases isOpen with rewritable | free
  · simp [OptionLabel.assign, OptionLabel.accept, rewritable]
  · simp [OptionLabel.assign, OptionLabel.accept, free]

theorem assign_of_accepts (isOpen : IsOpen label kept) {value : Value}
    (accepts : label.field.rule.Accepts value) :
    label.assign kept value = .ok (kept.enter label.field.slot value) := by
  rw [assign_of_isOpen isOpen, (OptionRule.check_eq_ok_iff label).2 accepts]
  rfl

theorem assign_of_not_accepts (isOpen : IsOpen label kept) {value : Value}
    (notAccepts : ¬ label.field.rule.Accepts value) :
    ∃ fault, label.assign kept value = .error fault ∧ fault.hindrance? = none ∧
      fault.errorClass ∈ [ErrorClass.limitsType, ErrorClass.limitsValue] := by
  obtain ⟨fault, checked, unhindered, isClass⟩ := OptionRule.check_of_not_accepts label notAccepts
  refine ⟨fault, ?_, unhindered, isClass⟩
  rw [assign_of_isOpen isOpen, checked]
  rfl

/-- The slot of an option behind an assignment to it that may fail. -/
theorem slot_assign (value : Value) :
    ((label.assign kept value).toOption.getD kept).under? label.field.slot =
      settled label (kept.under? label.field.slot) (accepted label.field [value]) := by
  by_cases isOpen : IsOpen label kept
  · by_cases accepts : label.field.rule.Accepts value
    · have entered : (kept.enter label.field.slot value).under? label.field.slot = some value := by
        rw [Kept.under?_enter, if_pos rfl]
      have isAccepted : accepted label.field [value] = [value] := by simp [accepted, accepts]
      rw [assign_of_accepts isOpen accepts, isAccepted]
      simp only [Except.toOption, Option.getD_some, entered, settled]
      rcases isOpen with rewritable | free
      · simp [rewritable]
      · simp [free]
    · have noneAccepted : accepted label.field [value] = [] := by simp [accepted, accepts]
      obtain ⟨fault, refused, -⟩ := assign_of_not_accepts isOpen accepts
      rw [refused, noneAccepted, settled_nil]
      rfl
  · obtain ⟨fixed, taken⟩ := not_isOpen_iff.1 isOpen
    obtain ⟨held, isHeld⟩ := Option.ne_none_iff_exists'.1 taken
    rw [assign_of_not_isOpen isOpen]
    simp [settled, fixed, isHeld, Except.toOption]

/-- An assignment to one option leaves the slots of all others alone. -/
theorem slot_assign_of_ne {other : OptionField} (apart : other.name ≠ label.field.name)
    (value : Value) :
    ((label.assign kept value).toOption.getD kept).under? other.slot =
      kept.under? other.slot := by
  cases assigned : label.assign kept value with
  | error fault => rfl
  | ok entered =>
      obtain ⟨-, rfl⟩ := OptionLabel.assign_eq_ok assigned
      exact (Kept.under?_enter _ _ _ _).trans (if_neg fun same => apart (slot_inj.1 same))

end Assignment

/-- What stands in the slot of an option behind the assignments that made an object. -/
theorem slot_assignAll {owner : OptionClass} (isApart : owner.IsApart) {kept assigned : Kept Value}
    {given : List (String × Value)}
    (options : ∀ entry ∈ given, ∃ field ∈ owner.fields, field.name = entry.1)
    (made : owner.assignAll kept given = .ok assigned) {field : OptionField}
    (member : field ∈ owner.fields) :
    assigned.under? field.slot =
      settled (owner.label field) (kept.under? field.slot) (valuesOf field.name given) := by
  induction given generalizing kept with
  | nil =>
      cases made
      exact (settled_nil _ _).symm
  | cons entry rest inductionHypothesis =>
      obtain ⟨name, value⟩ := entry
      rw [List.forall_mem_cons] at options
      obtain ⟨tried, triedMember, isName⟩ := options.1
      obtain ⟨first, done, others⟩ := assignAll_cons made
      dsimp only at isName
      subst isName
      rw [assign_of_isApart isApart (field?_of_mem triedMember)] at done
      have isFirst :
          ((owner.label tried).assign kept value).toOption.getD kept = first := by rw [done]; rfl
      rw [inductionHypothesis options.2 others]
      by_cases same : tried.name = field.name
      · have isTried : some field = some tried := by
          rw [← field?_of_mem triedMember, same, field?_of_mem member]
        cases isTried
        have mayHold : field.rule.Accepts value := (OptionLabel.assign_eq_ok done).1
        have accepts : accepted field [value] = [value] := by simp [accepted, mayHold]
        have slot : (((owner.label field).assign kept value).toOption.getD kept).under? field.slot =
            settled (owner.label field) (kept.under? field.slot) (accepted field [value]) :=
          slot_assign value
        have values : valuesOf field.name ((field.name, value) :: rest) =
            [value] ++ valuesOf field.name rest := by simp [valuesOf]
        rw [values, settled_append, ← isFirst, slot, accepts]
      · have untouched :
            (((owner.label tried).assign kept value).toOption.getD kept).under? field.slot =
              kept.under? field.slot :=
          slot_assign_of_ne (fun reversed => same reversed.symm) value
        have values : valuesOf field.name ((tried.name, value) :: rest) =
            valuesOf field.name rest := by simp [valuesOf, same]
        rw [values, ← isFirst, untouched]

/-! ### One step -/

section Steps

variable {objects : List Instance} {object : Instance} {field : OptionField} {step : Step}

/-- An attempt changes nothing but what its object keeps. -/
theorem owner_attempted (name : String) (attempt : Attempt) :
    ∃ kept, (object.attempted name attempt).toOption.getD object = ⟨object.owner, kept⟩ := by
  cases attempt with
  | assign value =>
      rw [Instance.attempted]
      cases object.owner.assign object.kept name value with
      | error fault => exact ⟨object.kept, rfl⟩
      | ok kept => exact ⟨kept, rfl⟩
  | delete =>
      rw [Instance.attempted]
      cases object.owner.delete object.kept name with
      | error fault => exact ⟨object.kept, rfl⟩
      | ok kept => exact ⟨kept, rfl⟩

/-- The slot of an option behind an attempt on any option of its object. -/
theorem slot_attempted (isApart : object.owner.IsApart) (member : field ∈ object.owner.fields)
    {tried : OptionField} (triedMember : tried ∈ object.owner.fields) (attempt : Attempt) :
    ((object.attempted tried.name attempt).toOption.getD object).kept.under? field.slot =
      settled (object.owner.label field) (object.kept.under? field.slot)
        (accepted field (if tried.name = field.name then attempt.value?.toList else [])) := by
  have known := field?_of_mem triedMember
  cases attempt with
  | delete =>
      rw [Instance.attempted, delete_of_field? known, Attempt.value?, Option.toList_none, ite_self,
        accepted, List.filter_nil, settled_nil]
      rfl
  | assign value =>
      let label := object.owner.label tried
      have changed : ((object.attempted tried.name (.assign value)).toOption.getD object).kept =
          (label.assign object.kept value).toOption.getD object.kept := by
        rw [Instance.attempted, assign_of_isApart isApart known]
        cases label.assign object.kept value <;> rfl
      rw [changed]
      by_cases same : tried.name = field.name
      · have isTried : some field = some tried := by
          rw [← known, same, field?_of_mem member]
        cases isTried
        rw [if_pos rfl]
        exact slot_assign value
      · rw [if_neg same, accepted, List.filter_nil, settled_nil]
        exact slot_assign_of_ne (fun reversed => same reversed.symm) value

theorem perform_eq (held : objects[step.number]? = some object) :
    step.perform objects =
      (object.attempted step.name step.attempt).map (objects.set step.number) := by
  rw [Step.perform, Session.changeAt, held]

theorem after_eq (held : objects[step.number]? = some object) :
    Step.after objects step = objects.set step.number
      ((object.attempted step.name step.attempt).toOption.getD object) := by
  obtain ⟨inside, isObject⟩ := List.getElem?_eq_some_iff.1 held
  rw [Step.after, perform_eq held]
  cases object.attempted step.name step.attempt with
  | error fault =>
      change objects = objects.set step.number object
      rw [← isObject, List.set_getElem_self]
  | ok changed => rfl

/-- Behind a step each object is still one of its class. -/
theorem owner_after (onOption : step.IsOn objects) {number : Nat}
    (held : objects[number]? = some object) :
    ∃ kept, (Step.after objects step)[number]? = some ⟨object.owner, kept⟩ := by
  obtain ⟨stepObject, -, stepHeld, -⟩ := onOption
  obtain ⟨inside, -⟩ := List.getElem?_eq_some_iff.1 stepHeld
  rw [after_eq stepHeld]
  by_cases same : step.number = number
  · subst same
    rw [held] at stepHeld
    cases stepHeld
    rw [List.getElem?_set_self inside]
    exact (owner_attempted step.name step.attempt).imp fun _ => congrArg some
  · exact ⟨object.kept, by rw [List.getElem?_set_ne same, held]⟩

theorem isOn_after {later : Step} (onOption : step.IsOn objects) (laterOn : later.IsOn objects) :
    later.IsOn (Step.after objects step) := by
  obtain ⟨object, field, held, member, isName⟩ := laterOn
  obtain ⟨kept, heldAfter⟩ := owner_after onOption held
  exact ⟨_, field, heldAfter, member, isName⟩

/-- The slot of an option behind a step on any option of any object. -/
theorem slot_after (onOption : step.IsOn objects) {number : Nat}
    (held : objects[number]? = some object) (isApart : object.owner.IsApart)
    (member : field ∈ object.owner.fields) :
    ∃ kept, (Step.after objects step)[number]? = some ⟨object.owner, kept⟩ ∧
      kept.under? field.slot =
        settled (object.owner.label field) (object.kept.under? field.slot)
          (accepted field (valuesFor number field.name [step])) := by
  obtain ⟨stepObject, tried, stepHeld, triedMember, isName⟩ := onOption
  obtain ⟨inside, -⟩ := List.getElem?_eq_some_iff.1 stepHeld
  rw [after_eq stepHeld, ← isName]
  by_cases same : step.number = number
  · subst same
    rw [held] at stepHeld
    cases stepHeld
    have slot := slot_attempted isApart member triedMember step.attempt
    obtain ⟨kept, isKept⟩ : ∃ kept, (object.attempted tried.name step.attempt).toOption.getD object =
        ⟨object.owner, kept⟩ := owner_attempted tried.name step.attempt
    rw [isKept] at slot
    refine ⟨kept, by rw [List.getElem?_set_self inside, isKept], ?_⟩
    rw [slot, valuesFor, List.filterMap_cons, List.filterMap_nil, Step.valueFor?, ← isName]
    by_cases sameName : tried.name = field.name
    · simp only [sameName, and_self, if_true]
      cases step.attempt.value? <;> rfl
    · simp only [sameName, and_false, if_false]
  · refine ⟨object.kept, by rw [List.getElem?_set_ne same, held], ?_⟩
    simp only [valuesFor, List.filterMap_cons, List.filterMap_nil, Step.valueFor?, same, false_and,
      if_false, accepted, List.filter_nil, settled_nil]

/-- A step that its object refuses. -/
theorem fails_of_attempted (held : objects[step.number]? = some object) {fault : Fault}
    (refused : object.attempted step.name step.attempt = .error fault)
    (unhindered : fault.hindrance? = none) {classes : List ErrorClass}
    (isClass : fault.errorClass ∈ classes) : step.Fails objects classes := by
  have performed : step.perform objects = .error fault := by
    rw [perform_eq held, refused]
    rfl
  refine ⟨⟨fault, performed, ?_⟩, ?_⟩
  · rw [Fault.errorClass_report unhindered]
    exact isClass
  · rw [Step.after, performed]
    rfl

section Option

variable {number : Nat} (held : objects[number]? = some object)
  (member : field ∈ object.owner.fields) {value : Value}

include held member

theorem fails_delete : Step.Fails ⟨number, field.name, .delete⟩ objects [.limitsAttribute] := by
  have refused : object.attempted field.name .delete =
      .error (.optionUndeletable (object.owner.label field)) := by
    rw [Instance.attempted, delete_of_field? (field?_of_mem member)]
    rfl
  exact fails_of_attempted held refused rfl (.head _)

variable (isApart : object.owner.IsApart)

include isApart

theorem fails_assign_of_not_isOpen (isTaken : ¬ IsOpen (object.owner.label field) object.kept) :
    Step.Fails ⟨number, field.name, .assign value⟩ objects [.limitsAttribute] := by
  have refused : object.attempted field.name (.assign value) =
      .error (.optionFixed (object.owner.label field)) := by
    rw [Instance.attempted, assign_of_isApart isApart (field?_of_mem member),
      assign_of_not_isOpen isTaken]
    rfl
  exact fails_of_attempted held refused rfl (.head _)

variable (isOpen : IsOpen (object.owner.label field) object.kept)

include isOpen

theorem fails_assign_of_not_accepts (notAccepts : ¬ field.rule.Accepts value) :
    Step.Fails ⟨number, field.name, .assign value⟩ objects [.limitsType, .limitsValue] := by
  obtain ⟨fault, refused, unhindered, isClass⟩ := assign_of_not_accepts isOpen notAccepts
  have attempted : object.attempted field.name (.assign value) = .error fault := by
    rw [Instance.attempted, assign_of_isApart isApart (field?_of_mem member), refused]
    rfl
  exact fails_of_attempted held attempted unhindered isClass

/-- An option that can take a value takes one that it accepts, and nothing else changes. -/
theorem sets_assign (accepts : field.rule.Accepts value) :
    Step.Sets ⟨number, field.name, .assign value⟩ objects value := by
  obtain ⟨inside, -⟩ := List.getElem?_eq_some_iff.1 held
  have known := field?_of_mem member
  let entered : Kept Value := object.kept.enter field.slot value
  have changed : object.attempted field.name (.assign value) = .ok ⟨object.owner, entered⟩ := by
    rw [Instance.attempted, assign_of_isApart isApart known, assign_of_accepts isOpen accepts]
    rfl
  have isAfter : Step.after objects ⟨number, field.name, .assign value⟩ =
      objects.set number ⟨object.owner, entered⟩ := by
    rw [after_eq held, changed]
    rfl
  refine ⟨?_, ⟨object, entered, held, ?_, ?_, ?_⟩, ?_⟩
  · rw [isAfter, perform_eq held, changed]
    rfl
  · rw [isAfter, List.getElem?_set_self inside]
  · rw [read_of_isApart isApart known, OptionField.valueIn_enter, if_pos rfl]
  · intro other otherMember apart
    have otherKnown := field?_of_mem otherMember
    rw [read_of_isApart isApart otherKnown, read_of_isApart isApart otherKnown,
      OptionField.valueIn_enter, if_neg apart]
  · intro other apart
    rw [isAfter, List.getElem?_set_ne (Ne.symm apart)]

end Option

end Steps

/-! ### Histories -/

/-- The slot of an option behind a history of steps on any options of any objects. -/
theorem slot_afterAll {objects : List Instance} {object : Instance} {steps : List Step}
    (onOptions : ∀ step ∈ steps, step.IsOn objects) {number : Nat}
    (held : objects[number]? = some object) (isApart : object.owner.IsApart) {field : OptionField}
    (member : field ∈ object.owner.fields) :
    ∃ kept, (afterAll objects steps)[number]? = some ⟨object.owner, kept⟩ ∧
      kept.under? field.slot =
        settled (object.owner.label field) (object.kept.under? field.slot)
          (accepted field (valuesFor number field.name steps)) := by
  -- What the first step leaves in the slot is what the rest begins with, whichever object that
  -- step is about.
  induction steps generalizing objects object with
  | nil => exact ⟨object.kept, held, (settled_nil _ _).symm⟩
  | cons step rest inductionHypothesis =>
      rw [List.forall_mem_cons] at onOptions
      obtain ⟨first, firstHeld, firstSlot⟩ := slot_after onOptions.1 held isApart member
      have restOn : ∀ later ∈ rest, later.IsOn (Step.after objects step) :=
        fun later inRest => isOn_after onOptions.1 (onOptions.2 later inRest)
      obtain ⟨kept, lastHeld, slot⟩ := inductionHypothesis restOn firstHeld isApart member
      refine ⟨kept, lastHeld, ?_⟩
      have values : valuesFor number field.name (step :: rest) =
          valuesFor number field.name [step] ++ valuesFor number field.name rest :=
        List.filterMap_append (l := [step])
      rw [slot, firstSlot, values, accepted, accepted, accepted, List.filter_append, settled_append]

/-- The slot of an option of an object that has just been made. -/
theorem Instance.IsNew.slot {object : Instance} {given : List (String × Value)}
    (isNew : object.IsNew given) (isApart : object.owner.IsApart) {field : OptionField}
    (member : field ∈ object.owner.fields) :
    object.kept.under? field.slot =
      settled (object.owner.label field) none (valuesOf field.name given) :=
  slot_assignAll isApart isNew.options isNew.made member

/-- What an option comes to over any attempts to assign or delete options of any objects, where the
class of its object keeps each option in a slot of its own. The values that the object was made with
count as accepted. Of an option that is fixed it is the first value that was tried and accepted, or
the one that the option begins with: until there is such a value any other is accepted or refused on
its own account, and from then on all are refused. Of an option that can be changed it is the last
value that was accepted. To delete an option is refused. What is refused changes nothing, and what
is accepted changes one option of one object. -/
theorem options_follow_attempts {objects : List Instance} {steps : List Step}
    (onOptions : ∀ step ∈ steps, step.IsOn objects) {number : Nat} {object : Instance}
    (held : objects[number]? = some object) (isApart : object.owner.IsApart)
    {given : List (String × Value)} (isNew : object.IsNew given) {field : OptionField}
    (member : field ∈ object.owner.fields) :
    let reached := afterAll objects steps
    let isRewritable := (object.owner.ownerOf field).isRewritable
    let values := valuesOf field.name given ++ accepted field (valuesFor number field.name steps)
    (∃ kept, reached[number]? = some ⟨object.owner, kept⟩ ∧
      object.owner.read kept field.name = .ok
        ((if isRewritable then values.getLast? else values.head?).getD field.initial)) ∧
    Step.Fails ⟨number, field.name, .delete⟩ reached [.limitsAttribute] ∧
    ∀ value, let assignment : Step := ⟨number, field.name, .assign value⟩
      (isRewritable = false ∧ values ≠ [] → assignment.Fails reached [.limitsAttribute]) ∧
      (isRewritable = true ∨ values = [] →
        (field.rule.Accepts value → assignment.Sets reached value) ∧
        (¬ field.rule.Accepts value →
          assignment.Fails reached [.limitsType, .limitsValue])) := by
  intro reached isRewritable values
  obtain ⟨kept, heldAfter, slot⟩ := slot_afterAll onOptions held isApart member
  -- What the object was made with and what was tried since settle the slot as one list of values.
  have isSlot : kept.under? field.slot =
      if isRewritable then values.getLast? else values.head? := by
    rw [slot, isNew.slot isApart member, ← settled_append, settled]
    split
    · rw [if_pos ‹_›, Option.or_none]
    · rw [if_neg ‹_›, Option.none_or]
  -- The slot decides both what is read and whether the option can take a further value.
  refine ⟨⟨kept, heldAfter, ?_⟩, fails_delete heldAfter member, fun value => ⟨?_, ?_⟩⟩
  · rw [read_of_isApart isApart (field?_of_mem member), OptionField.valueIn, isSlot]
  · rintro ⟨fixed, someValue⟩
    have taken : kept.under? field.slot ≠ none := by
      rw [isSlot, fixed, if_neg Bool.false_ne_true]
      exact fun isEmpty => someValue (List.head?_eq_none_iff.1 isEmpty)
    exact fails_assign_of_not_isOpen heldAfter member isApart (not_isOpen_iff.2 ⟨fixed, taken⟩)
  · intro rewritableOrFree
    have isOpen : IsOpen (object.owner.label field) kept := by
      by_cases rewritable : isRewritable = true
      · exact .inl rewritable
      · have noValue : values = [] := rewritableOrFree.resolve_left rewritable
        refine .inr (isSlot.trans ?_)
        rw [if_neg rewritable, noValue]
        rfl
    exact ⟨sets_assign heldAfter member isApart isOpen,
      fails_assign_of_not_accepts heldAfter member isApart isOpen⟩

/-- A class of objects with a flag and a level. -/
def levelled (isRewritable : Bool) : OptionClass where
  name := "Levelled"
  fields := [⟨"flag", .flag, .bool false⟩, ⟨"level", .level, .int 30⟩]
  ownerOf _ := ⟨"Levelled", isRewritable⟩
  distinct := by simp
  slotsUnreserved := by decide +kernel

theorem isApart_levelled (isRewritable : Bool) : (levelled isRewritable).IsApart where
  options := by cases isRewritable <;> decide
  attributes _ _ := rfl

/-- Two objects. A level that is refused leaves the level of the first one free, and nothing at all
counts as a level: behind it any other is refused. The second one was made with a level and takes
others. -/
theorem options_follow_attempts_levelled :
    let objects : List Instance :=
      [⟨levelled false, []⟩,
        ⟨levelled true, [(.text "_flag", .bool true), (.text "_level", .text "INFO")]⟩]
    let reached := afterAll objects
      [⟨0, "level", .assign (.text "LOUD")⟩, ⟨0, "level", .assign .absent⟩,
        ⟨1, "level", .assign (.int 10)⟩, ⟨0, "level", .delete⟩]
    (∃ kept, reached[0]? = some ⟨levelled false, kept⟩ ∧
      (levelled false).read kept "level" = .ok .absent) ∧
    (∃ kept, reached[1]? = some ⟨levelled true, kept⟩ ∧
      (levelled true).read kept "level" = .ok (.int 10)) ∧
    Step.Fails ⟨0, "level", .assign (.int 10)⟩ reached [.limitsAttribute] ∧
    Step.Sets ⟨0, "flag", .assign (.bool true)⟩ reached (.bool true) ∧
    Step.Fails ⟨1, "level", .assign (.bool true)⟩ reached [.limitsType, .limitsValue] := by
  intro objects reached
  have level : (⟨"level", .level, .int 30⟩ : OptionField) ∈ (levelled true).fields :=
    .tail _ (.head _)
  have onOptions : ∀ step ∈ [
      (⟨0, "level", .assign (.text "LOUD")⟩ : Step), ⟨0, "level", .assign .absent⟩,
      ⟨1, "level", .assign (.int 10)⟩, ⟨0, "level", .delete⟩], step.IsOn objects := by
    simp only [List.forall_mem_cons]
    exact ⟨⟨_, _, rfl, level, rfl⟩, ⟨_, _, rfl, level, rfl⟩, ⟨_, _, rfl, level, rfl⟩,
      ⟨_, _, rfl, level, rfl⟩, nofun⟩
  have firstNew : (⟨levelled false, []⟩ : Instance).IsNew [] := ⟨nofun, rfl⟩
  have secondNew : Instance.IsNew
      ⟨levelled true, [(.text "_flag", .bool true), (.text "_level", .text "INFO")]⟩
      [("flag", .bool true), ("level", .text "INFO")] := by
    refine ⟨?_, rfl⟩
    rw [List.forall_mem_cons, List.forall_mem_singleton]
    exact ⟨⟨_, .head _, rfl⟩, _, level, rfl⟩
  have first : objects[0]? = some ⟨levelled false, []⟩ := rfl
  have second : objects[1]? = some
      ⟨levelled true, [(.text "_flag", .bool true), (.text "_level", .text "INFO")]⟩ := rfl
  have firstLevel :=
    options_follow_attempts onOptions first (isApart_levelled false) firstNew level
  have firstFlag :=
    options_follow_attempts onOptions first (isApart_levelled false) firstNew (.head _)
  have secondLevel :=
    options_follow_attempts onOptions second (isApart_levelled true) secondNew level
  exact ⟨firstLevel.1, secondLevel.1,
    (firstLevel.2.2 _).1 ⟨rfl, by decide⟩,
    ((firstFlag.2.2 _).2 (.inr (by decide))).1 ⟨true, rfl⟩,
    ((secondLevel.2.2 _).2 (.inl rfl)).2 (by decide)⟩

/-- A class in which the slot of one option has the name of another one. -/
def shadowed : OptionClass where
  name := "Shadowed"
  fields := [⟨"a", .free, .int 1⟩, ⟨"_a", .free, .int 2⟩]
  ownerOf _ := ⟨"Shadowed", false⟩
  distinct := by simp
  slotsUnreserved := by decide +kernel

/-- An option that shares its slot with another one has the value of that one from the beginning,
and refuses any value of its own. In a language with a template that cannot be filled, to delete an
option is refused under the class of that failure. -/
theorem options_follow_attempts_shared_slot :
    (⟨shadowed, []⟩ : Instance).IsNew [] ∧
    shadowed.read [] "a" = .ok (.int 2) ∧
    (∀ value, Step.Fails ⟨0, "a", .assign value⟩ [⟨shadowed, []⟩] [.limitsAttribute]) ∧
    ∃ fault, Step.perform ⟨0, "flag", .delete⟩ [⟨levelled false, []⟩] = .error fault ∧
      (fault.report (Translation.initial.start .messages
        [{ messages := [(Wording.optionUndeletable.template, "\x7b")] }]
        false).message).errorClass = .standard "ValueError" := by
  refine ⟨⟨nofun, rfl⟩, rfl, fun value => ?_, _, rfl, rfl⟩
  have refused : (⟨shadowed, []⟩ : Instance).attempted "a" (.assign value) =
      .error (.optionFixed (shadowed.label ⟨"a", .free, .int 1⟩)) := rfl
  exact fails_of_attempted rfl refused rfl (.head _)

/-! ### Objects of the three shapes -/

def Instance.ofObject (object : OptionObject) : Instance :=
  ⟨object.shape.optionClass, object.stored⟩

/-- What the options of a new object of a shape were given: its arguments, where it takes any. -/
def givenAtStart (shape : Shape) (positional : List Value) (keywords : List (String × Value)) :
    List (String × Value) :=
  if shape.isRewritable then
    shape.fields.map fun field =>
      (field.name, OptionObject.argumentFor shape positional keywords field)
  else []

theorem isNew_of_make {shape : Shape} {positional : List Value} {keywords : List (String × Value)}
    {object : OptionObject} (made : OptionObject.make shape positional keywords = .ok object) :
    (Instance.ofObject object).IsNew (givenAtStart shape positional keywords) := by
  obtain ⟨rfl, kept⟩ := OptionObject.stored_of_make made
  unfold givenAtStart
  split at kept
  · rw [if_pos ‹_›]
    refine ⟨?_, kept⟩
    intro entry inGiven
    obtain ⟨field, member, rfl⟩ := List.mem_map.1 inGiven
    exact ⟨field, member, rfl⟩
  · rw [if_neg ‹_›]
    exact ⟨nofun, congrArg Except.ok kept.symm⟩

theorem changeAt_map {Item Image : Type} {image : Item → Image}
    {change : Item → Except Fault Item} {changeImage : Image → Except Fault Image}
    (agreement : ∀ item, changeImage (image item) = (change item).map image)
    (items : List Item) (number : Nat) :
    Session.changeAt (items.map image) number changeImage =
      (Session.changeAt items number change).map (List.map image) := by
  unfold Session.changeAt
  rw [List.getElem?_map]
  cases items[number]? with
  | none => rfl
  | some item =>
      simp only [Option.map_some]
      rw [agreement]
      cases change item with
      | error fault => rfl
      | ok changed => exact congrArg Except.ok List.map_set.symm

/-- A session that gives a value to a name of an object takes a step. -/
theorem perform_giveHeld (session : Session) (number : Nat) (name : String) (value : Value) :
    Step.perform ⟨number, name, .assign value⟩ (session.settings.objects.map Instance.ofObject) =
      (session.giveHeld (.object number) name value).map fun given =>
        given.settings.objects.map Instance.ofObject := by
  have agreement : ∀ object : OptionObject, (Instance.ofObject object).attempted name
      (.assign value) = (object.assign name value).map Instance.ofObject := by
    intro object
    simp only [Instance.attempted, OptionObject.assign, Instance.ofObject]
    cases object.shape.optionClass.assign object.stored name value <;> rfl
  rw [Step.perform, changeAt_map agreement, Session.giveHeld]
  cases Session.changeAt session.settings.objects number fun object => object.assign name value <;>
    rfl

/-- A session that takes a name of an object away takes a step. -/
theorem perform_takeHeld (session : Session) (number : Nat) (name : String) :
    Step.perform ⟨number, name, .delete⟩ (session.settings.objects.map Instance.ofObject) =
      (session.takeHeld (.object number) name).map fun left =>
        left.settings.objects.map Instance.ofObject := by
  have agreement : ∀ object : OptionObject, (Instance.ofObject object).attempted name .delete =
      (object.delete name).map Instance.ofObject := by
    intro object
    simp only [Instance.attempted, OptionObject.delete, Instance.ofObject]
    cases object.shape.optionClass.delete object.stored name <;> rfl
  rw [Step.perform, changeAt_map agreement, Session.takeHeld]
  cases Session.changeAt session.settings.objects number fun object => object.delete name <;> rfl

end ProtectionLimits.OptionClass
