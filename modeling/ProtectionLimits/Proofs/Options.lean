import Mathlib.Data.List.Basic
import ProtectionLimits.Options
import ProtectionLimits.Proofs.Fault.Untranslated
import ProtectionLimits.Registry.Call

/-!
Contract: what objects with validated options hold.

Owns the values that an option may hold, and what making, assigning, deleting and copying leave
in the options of an object. An option whose slot is the name of another one leads to that one,
and so on to the last (`standing?_of_field?`, `assign_of_field?`); where the options of a class
have slots of their own (`IsApart`), each is a place by itself. An object is usable as long as each
of its options holds a value that the option accepts. Only a caller who assigns to the names that
objects have for themselves can make it unusable; `isUsable_assign` and `isUsable_delete` say that
nothing else can, and `make_eq_ok` that a new object is usable. A copy is made like a new object,
and holds what is given for it and what its base holds otherwise (`values_of_derive`).

Does not own where objects are kept, nor which of them holds the default settings.
-/

set_option autoImplicit false

namespace ProtectionLimits

/-! ### Rules -/

def OptionRule.Accepts : OptionRule → Value → Prop
  | free, _ => True
  | flag, value => ∃ truth, value = .bool truth
  | level, value => value = .absent ∨ ∃ chosen, Log.levelOf value = .ok chosen

/-- A value is refused exactly if the option may not hold it. -/
theorem OptionRule.check_eq_ok_iff (label : OptionLabel) {rule : OptionRule} {value : Value} :
    rule.check label value = .ok () ↔ rule.Accepts value := by
  cases rule with
  | free => exact iff_of_true rfl trivial
  | flag => cases value <;> simp [check, Accepts]
  | level =>
      cases value with
      | text name =>
          simp only [check, Accepts]
          cases Log.levelOf (.text name) <;> simp [Except.map]
      | _ => simp [check, Accepts, Log.levelOf]

theorem OptionRule.accepts_flag_iff {value : Value} :
    flag.Accepts value ↔ value.kind = .bool := by
  cases value <;> simp [Accepts, Value.kind]

theorem OptionRule.accepts_level_iff {value : Value} :
    level.Accepts value ↔ value.kind = .absent ∨ (Log.levelOf value).toOption.isSome = true := by
  have isAbsent : value = .absent ↔ value.kind = .absent := by
    cases value <;> simp [Value.kind]
  rw [Accepts, isAbsent]
  cases Log.levelOf value <;> simp [Except.toOption]

instance (rule : OptionRule) (value : Value) : Decidable (rule.Accepts value) :=
  match rule with
  | .free => inferInstanceAs (Decidable True)
  | .flag => decidable_of_iff _ OptionRule.accepts_flag_iff.symm
  | .level => decidable_of_iff _ OptionRule.accepts_level_iff.symm

/-- A value is refused for its kind, or as the name of no level. Nothing keeps such a refusal from
being worded. -/
theorem OptionRule.check_of_not_accepts (label : OptionLabel) {rule : OptionRule} {value : Value}
    (notAccepts : ¬ rule.Accepts value) :
    ∃ fault, rule.check label value = .error fault ∧ fault.hindrance? = none ∧
      fault.errorClass ∈ [ErrorClass.limitsType, ErrorClass.limitsValue] := by
  cases rule with
  | free => exact absurd trivial notAccepts
  | flag =>
      cases value with
      | bool truth => exact absurd ⟨truth, rfl⟩ notAccepts
      | _ => exact ⟨_, rfl, rfl, .head _⟩
  | level =>
      cases value with
      | absent => exact absurd (.inl rfl) notAccepts
      | int chosen => exact absurd (.inr ⟨chosen, rfl⟩) notAccepts
      | text name =>
          cases named : Log.levelOf (.text name) with
          | ok chosen => exact absurd (.inr ⟨chosen, named⟩) notAccepts
          | error fault =>
              refine ⟨fault, by rw [check, named]; rfl, ?_⟩
              rw [Log.levelOf] at named
              split at named
              · cases named
              · cases named
                exact ⟨rfl, .tail _ (.head _)⟩
      | _ => exact ⟨_, rfl, rfl, .head _⟩

namespace Shape

theorem pairwise_fields (shape : Shape) :
    shape.fields.Pairwise fun left right => left.name ≠ right.name := by
  cases shape <;> simp [fields]

/-- Every option begins with a value that it may hold. -/
theorem accepts_initial {shape : Shape} {field : OptionField} (member : field ∈ shape.fields) :
    field.rule.Accepts field.initial := by
  cases shape <;> simp only [fields, List.mem_cons, List.not_mem_nil, or_false] at member
  case plain =>
    rcases member with rfl | rfl | rfl
    · exact ⟨false, rfl⟩
    · exact .inl rfl
    · trivial
  case data =>
    rcases member with rfl | rfl | rfl
    · exact ⟨true, rfl⟩
    · exact .inr ⟨_, rfl⟩
    · trivial
  case settings =>
    rcases member with rfl | rfl
    · exact ⟨false, rfl⟩
    · exact .inl rfl

end Shape

/-! ### Slots -/

/-- Whether a name is one that objects of a shape have for themselves: it is reserved for the parts
that things of every class have, or it is the slot of an option. -/
def Shape.isPrivate (shape : Shape) (name : String) : Bool :=
  isReserved name || shape.fields.any fun field => field.slot == name

theorem Shape.not_isPrivate_iff {shape : Shape} {name : String} :
    shape.isPrivate name = false ↔
      isReserved name = false ∧ ∀ field ∈ shape.fields, field.slot ≠ name := by
  simp only [isPrivate, Bool.or_eq_false_iff, List.any_eq_false, beq_iff_eq, ne_eq]

theorem ne_whole_of_not_isReserved {name : String} (notReserved : isReserved name = false) :
    name ≠ Kept.whole := by
  have isPart : isReserved Kept.whole = true := by decide +kernel
  rintro rfl
  rw [isPart] at notReserved
  cases notReserved

theorem slot_inj {left right : OptionField} : left.slot = right.slot ↔ left.name = right.name :=
  String.append_right_inj "_"

/-! ### Options of a class -/

/-- What goes into the slot of an option is the value of this option and of no other. -/
theorem OptionField.valueIn_enter (field other : OptionField) (kept : Kept Value) (value : Value) :
    other.valueIn (kept.enter field.slot value) =
      if other.name = field.name then value else other.valueIn kept := by
  simp only [valueIn, Kept.under?_enter, slot_inj]
  split <;> rfl

namespace OptionLabel

/-- What an object keeps with a value for an option whose slot is nothing else. -/
def assign (label : OptionLabel) (kept : Kept Value) (value : Value) : Except Fault (Kept Value) :=
  (label.accept (kept.under? label.field.slot).isSome value).map fun _ =>
    kept.enter label.field.slot value

theorem assign_eq_ok {label : OptionLabel} {kept assigned : Kept Value} {value : Value}
    (accepted : label.assign kept value = .ok assigned) :
    label.field.rule.Accepts value ∧ assigned = kept.enter label.field.slot value := by
  obtain ⟨done, checked, rfl⟩ := Registry.map_eq_ok accepted
  unfold accept at checked
  split at checked
  · cases checked
  · exact ⟨(OptionRule.check_eq_ok_iff label).1 checked, rfl⟩

end OptionLabel

namespace OptionClass

variable {owner : OptionClass} {kept : Kept Value} {name : String} {field : OptionField}

/-! #### Names that lead to names -/

/-- How many options have a name that is no shorter than a given one. -/
def behind (owner : OptionClass) (name : String) : Nat :=
  owner.fields.countP fun field => name.length ≤ field.name.length

theorem behind_lt_depth (owner : OptionClass) (name : String) : owner.behind name < owner.depth :=
  Nat.lt_succ_of_le List.countP_le_length

/-- Fewer options are left behind the slot of an option than behind the option. -/
theorem behind_slot_lt (known : owner.field? name = some field) :
    owner.behind field.slot < owner.behind name := by
  have isName : field.name = name := by simpa using List.find?_some known
  have longer : field.slot.length = name.length + 1 := by
    rw [OptionField.slot, String.length_append, isName, Nat.add_comm]
    rfl
  obtain ⟨front, rest, split⟩ := List.append_of_mem (List.mem_of_find?_eq_some known)
  have fewer (fields : List OptionField) :
      (fields.countP fun other => field.slot.length ≤ other.name.length) ≤
        fields.countP fun other => name.length ≤ other.name.length := by
    apply List.countP_mono_left
    intro other _
    simp only [longer, decide_eq_true_eq]
    omega
  have first := fewer front
  have last := fewer rest
  simp only [behind, split, List.countP_append, List.countP_cons, longer, isName, Nat.le_refl,
    decide_true, if_true] at first last ⊢
  simp only [show ¬ name.length + 1 ≤ name.length by omega, decide_false, Bool.false_eq_true,
    if_false]
  omega

/-- What stands under a name does not depend on the depth, as long as there are not more options
behind the name. -/
theorem standingWithin_congr {depth other : Nat} (enough : owner.behind name < depth)
    (otherEnough : owner.behind name < other) :
    owner.standingWithin kept depth name = owner.standingWithin kept other name := by
  induction depth generalizing other name with
  | zero => cases enough
  | succ depth inductionHypothesis =>
      cases other with
      | zero => cases otherEnough
      | succ other =>
          rw [standingWithin, standingWithin]
          cases known : owner.field? name with
          | none => rfl
          | some field =>
              have fewer := behind_slot_lt known
              have sameBehind : owner.standingWithin kept depth field.slot =
                  owner.standingWithin kept other field.slot :=
                inductionHypothesis (by omega) (by omega)
              simp only [sameBehind]

/-- An option has what stands under its slot, and begins with a value where nothing does. -/
theorem standing?_of_field? (known : owner.field? name = some field) :
    owner.standing? kept name =
      some ((owner.standing? kept field.slot).getD field.initial) := by
  have fewer := behind_slot_lt known
  have enough := owner.behind_lt_depth name
  have behind : owner.standingWithin kept owner.fields.length field.slot =
      owner.standing? kept field.slot :=
    standingWithin_congr (by rw [depth] at enough; omega) (by omega)
  rw [standing?, depth, standingWithin, known]
  simp only [behind]

theorem standing?_of_none (unknown : owner.field? name = none) :
    owner.standing? kept name = owner.held? kept name := by
  rw [standing?, depth, standingWithin, unknown]

/-- What comes of a value that is given to a name does not depend on the depth either. -/
theorem assignWithin_congr {value : Value} {depth other : Nat} (enough : owner.behind name < depth)
    (otherEnough : owner.behind name < other) :
    owner.assignWithin kept value depth name = owner.assignWithin kept value other name := by
  induction depth generalizing other name with
  | zero => cases enough
  | succ depth inductionHypothesis =>
      cases other with
      | zero => cases otherEnough
      | succ other =>
          rw [assignWithin, assignWithin]
          cases known : owner.field? name with
          | none => rfl
          | some field =>
              have fewer := behind_slot_lt known
              have sameBehind : owner.assignWithin kept value depth field.slot =
                  owner.assignWithin kept value other field.slot :=
                inductionHypothesis (by omega) (by omega)
              simp only [sameBehind]

/-- A value that an option takes is given to its slot. -/
theorem assign_of_field? (known : owner.field? name = some field) (value : Value) :
    owner.assign kept name value =
      ((owner.label field).accept (owner.standing? kept field.slot).isSome value).bind fun _ =>
        owner.assign kept field.slot value := by
  have fewer := behind_slot_lt known
  have enough := owner.behind_lt_depth name
  have behind : owner.assignWithin kept value owner.fields.length field.slot =
      owner.assign kept field.slot value :=
    assignWithin_congr (by rw [depth] at enough; omega) (by omega)
  rw [assign, depth, assignWithin, known]
  simp only [behind]
  rfl

theorem assign_of_none (unknown : owner.field? name = none) (value : Value) :
    owner.assign kept name value = kept.give owner.name id name value := by
  rw [assign, depth, assignWithin, unknown]

theorem delete_of_field? (known : owner.field? name = some field) :
    owner.delete kept name = .error (.optionUndeletable (owner.label field)) := by
  rw [delete, known]
  rfl

/-! #### Options with slots of their own -/

/-- Whether the options of a class keep their values in slots of their own: no slot has the name
of an option, or of something else that the class keeps. -/
structure IsApart (owner : OptionClass) : Prop where
  options : ∀ field ∈ owner.fields, owner.field? field.slot = none
  attributes : ∀ field ∈ owner.fields, owner.attributes.lookup field.slot = none

variable (isApart : owner.IsApart)

include isApart

theorem standing?_slot (member : field ∈ owner.fields) :
    owner.standing? kept field.slot = kept.under? field.slot := by
  rw [standing?_of_none (isApart.options field member), held?, isApart.attributes field member,
    Option.or_none]

theorem read_of_isApart (known : owner.field? name = some field) :
    owner.read kept name = .ok (field.valueIn kept) := by
  rw [read, standing?_of_field? known, standing?_slot isApart (List.mem_of_find?_eq_some known)]
  rfl

theorem assign_of_isApart (known : owner.field? name = some field) (value : Value) :
    owner.assign kept name value = (owner.label field).assign kept value := by
  have member := List.mem_of_find?_eq_some known
  have notPart (part : String) (isPart : isReserved part = true) : field.slot ≠ part := by
    rintro rfl
    rw [owner.slotsUnreserved field member] at isPart
    cases isPart
  have given : owner.assign kept field.slot value = .ok (kept.enter field.slot value) := by
    rw [assign_of_none (isApart.options field member)]
    unfold Kept.give
    rw [if_neg (notPart Kept.whole (by decide +kernel)),
      if_neg (notPart Kept.classPart (by decide +kernel)),
      if_neg (notPart Kept.references (by decide +kernel))]
    rfl
  rw [assign_of_field? known, standing?_slot isApart member, given, OptionLabel.assign]
  change _ = ((owner.label field).accept (kept.under? field.slot).isSome value).map _
  cases (owner.label field).accept (kept.under? field.slot).isSome value <;> rfl

/-- A value that is accepted for an option is one that it may hold, and goes into its slot. -/
theorem assign_eq_ok (known : owner.field? name = some field) {value : Value}
    {assigned : Kept Value} (accepted : owner.assign kept name value = .ok assigned) :
    field.rule.Accepts value ∧ assigned = kept.enter field.slot value := by
  rw [assign_of_isApart isApart known] at accepted
  exact OptionLabel.assign_eq_ok accepted

omit isApart

/-- Values are given one after the other. -/
theorem assignAll_cons {assigned : Kept Value} {value : Value} {rest : List (String × Value)}
    (done : owner.assignAll kept ((name, value) :: rest) = .ok assigned) :
    ∃ first, owner.assign kept name value = .ok first ∧
      owner.assignAll first rest = .ok assigned := by
  rw [assignAll] at done
  cases accepted : owner.assign kept name value with
  | error fault =>
      rw [accepted] at done
      cases done
  | ok first =>
      rw [accepted] at done
      exact ⟨first, rfl, done⟩

/-- An option is found under its name: no two options of a class have the same. -/
theorem field?_of_mem {field : OptionField} (member : field ∈ owner.fields) :
    owner.field? field.name = some field := by
  have distinct := owner.distinct
  unfold field?
  generalize owner.fields = fields at member distinct
  induction fields with
  | nil => cases member
  | cons first rest inductionHypothesis =>
      rw [List.pairwise_cons] at distinct
      rcases List.mem_cons.1 member with rfl | later
      · simp only [List.find?_cons, beq_self_eq_true]
      · have isOther := beq_eq_false_iff_ne.2 (distinct.1 field later)
        simp only [List.find?_cons, isOther]
        exact inductionHypothesis later distinct.2

/-- Where options are given values one after the other, each takes the value that is given for it
and holds it in the end. Nothing else changes. -/
theorem assignAll_fields (isApart : owner.IsApart) {assigned : Kept Value}
    {fields : List OptionField} {given : OptionField → Value}
    (members : ∀ field ∈ fields, field ∈ owner.fields)
    (distinct : fields.Pairwise fun left right => left.name ≠ right.name)
    (done : owner.assignAll kept (fields.map fun field => (field.name, given field)) =
      .ok assigned) :
    (∀ field ∈ fields, field.rule.Accepts (given field) ∧
        assigned.under? field.slot = some (given field)) ∧
      ∀ other, (∀ field ∈ fields, other ≠ field.slot) →
        assigned.under? other = kept.under? other := by
  -- What is assigned first is found in the end, since the names of the options behind it differ.
  induction fields generalizing kept with
  | nil =>
      cases done
      exact ⟨nofun, fun _ _ => rfl⟩
  | cons field rest inductionHypothesis =>
      rw [List.forall_mem_cons] at members
      rw [List.pairwise_cons] at distinct
      obtain ⟨first, accepted, done⟩ := assignAll_cons done
      obtain ⟨accepts, rfl⟩ := assign_eq_ok isApart (field?_of_mem members.1) accepted
      obtain ⟨others, untouched⟩ := inductionHypothesis members.2 distinct.2 done
      refine ⟨?_, ?_⟩
      · rw [List.forall_mem_cons]
        refine ⟨⟨accepts, ?_⟩, others⟩
        have apart : ∀ other ∈ rest, field.slot ≠ other.slot :=
          fun other member same => distinct.1 other member (slot_inj.1 same)
        rw [untouched field.slot apart, Kept.under?_enter, if_pos rfl]
      · intro other apart
        rw [List.forall_mem_cons] at apart
        rw [untouched other apart.2, Kept.under?_enter, if_neg apart.1]

end OptionClass

/-- The options of each shape keep their values in slots of their own. -/
theorem Shape.isApart (shape : Shape) : shape.optionClass.IsApart where
  options := by cases shape <;> decide
  attributes _ _ := rfl

namespace OptionObject

/-! ### Single options -/

/-- An accepted assignment stores an accepted value for an option, or gives the object something
to keep under a name that is none of an option. -/
theorem assign_cases {object assigned : OptionObject} {name : String} {value : Value}
    (accepted : object.assign name value = .ok assigned) :
    (∃ field, object.shape.field? name = some field ∧ field.rule.Accepts value ∧
        assigned = { object with stored := object.stored.enter field.slot value }) ∨
      object.shape.field? name = none ∧ ∃ stored,
        object.stored.give object.shape.name id name value = .ok stored ∧
        assigned = { object with stored := stored } := by
  obtain ⟨stored, assignedStored, rfl⟩ := Registry.map_eq_ok accepted
  cases known : object.shape.field? name with
  | none =>
      rw [OptionClass.assign_of_none known] at assignedStored
      exact .inr ⟨rfl, stored, assignedStored, rfl⟩
  | some field =>
      obtain ⟨accepts, rfl⟩ :=
        OptionClass.assign_eq_ok object.shape.isApart known assignedStored
      exact .inl ⟨field, rfl, accepts, rfl⟩

theorem shape_of_assign {object assigned : OptionObject} {name : String} {value : Value}
    (accepted : object.assign name value = .ok assigned) : assigned.shape = object.shape := by
  rcases assign_cases accepted with ⟨field, -, -, rfl⟩ | ⟨-, stored, -, rfl⟩
  · rfl
  · rfl

theorem shape_of_delete {object left : OptionObject} {name : String}
    (deleted : object.delete name = .ok left) : left.shape = object.shape := by
  obtain ⟨stored, -, rfl⟩ := Registry.map_eq_ok deleted
  rfl

/-- An option of a rewritable object takes exactly the values that it accepts. -/
theorem assign_option_iff {object : OptionObject} {name : String} {field : OptionField}
    {value : Value} (rewritable : object.shape.isRewritable = true)
    (known : object.shape.field? name = some field) :
    (∃ assigned, object.assign name value = .ok assigned) ↔ field.rule.Accepts value := by
  let label := object.shape.optionClass.label field
  have isOpen : label.owner.isRewritable = true := rewritable
  have checks : label.accept (object.stored.under? field.slot).isSome value =
      field.rule.check label value := by
    rw [OptionLabel.accept, isOpen, Bool.not_true, Bool.and_false, if_neg Bool.false_ne_true]
    rfl
  rw [assign, OptionClass.assign_of_isApart object.shape.isApart known, OptionLabel.assign]
  rw [show (label.accept (object.stored.under? label.field.slot).isSome value) =
    field.rule.check label value from checks, ← OptionRule.check_eq_ok_iff label]
  cases field.rule.check label value with
  | error fault => simp [Except.map]
  | ok done => exact iff_of_true ⟨_, rfl⟩ rfl

/-! ### Usable objects -/

/-- Whether an object is usable: its options hold what they may hold. -/
def IsUsable (object : OptionObject) : Prop :=
  ∀ field ∈ object.shape.fields, field.rule.Accepts (object.optionValue field)

/-- Whether an object knows its options: it has not been told anything else about what they
are. -/
def KnowsOptions (object : OptionObject) : Prop := object.stored? optionsPart = none

/-- Whether an object is intact: it is usable, and knows its options. -/
structure IsIntact (object : OptionObject) : Prop where
  usable : object.IsUsable
  knowsOptions : object.KnowsOptions

/-- What an object knows its options by is not in the slot of an option. -/
theorem optionsPart_ne_slot {shape : Shape} {field : OptionField} (member : field ∈ shape.fields) :
    optionsPart ≠ field.slot := by
  have isPart : isReserved optionsPart = true := by decide +kernel
  intro same
  rw [same, shape.optionClass.slotsUnreserved field member] at isPart
  cases isPart

theorem isIntact_new (shape : Shape) : IsIntact ⟨shape, []⟩ where
  usable _ member := Shape.accepts_initial member
  knowsOptions := rfl

section Usable

variable {object : OptionObject}

/-- An object stays usable with a value in the slot of an option that accepts it. -/
theorem IsUsable.enter (usable : object.IsUsable) {field : OptionField} {value : Value}
    (known : object.shape.field? field.name = some field) (accepts : field.rule.Accepts value) :
    IsUsable { object with stored := object.stored.enter field.slot value } := by
  intro other member
  rw [optionValue, OptionField.valueIn_enter]
  split
  · rename_i sameName
    have found : object.shape.field? other.name = some other :=
      OptionClass.field?_of_mem member
    rw [sameName, known] at found
    cases found
    exact accepts
  · exact usable other member

/-- An object stays usable with whatever else it keeps, as long as the slots of its options keep
what they had, or nothing. -/
theorem IsUsable.of_slots (usable : object.IsUsable) {stored : Kept Value}
    (kept : ∀ field ∈ object.shape.fields, stored.under? field.slot = none ∨
      stored.under? field.slot = object.stored? field.slot) :
    IsUsable { object with stored := stored } := by
  intro field member
  rw [optionValue, OptionField.valueIn]
  rcases kept field member with empty | same
  · rw [empty]
    exact Shape.accepts_initial member
  · rw [same]
    exact usable field member

theorem isUsable_assign (usable : object.IsUsable) {assigned : OptionObject} {name : String}
    {value : Value} (isOther : object.shape.isPrivate name = false)
    (accepted : object.assign name value = .ok assigned) : assigned.IsUsable := by
  rcases assign_cases accepted with ⟨field, known, accepts, rfl⟩ | ⟨-, stored, given, rfl⟩
  · have named := Shape.name_of_field? known
    exact usable.enter (named ▸ known) accepts
  · apply usable.of_slots
    intro field member
    obtain ⟨notReserved, notSlot⟩ := Shape.not_isPrivate_iff.1 isOther
    rw [Kept.under?_give (ne_whole_of_not_isReserved notReserved) given,
      if_neg (notSlot field member)]
    exact .inr rfl

/-- Whatever is taken away, an object stays usable: an option with an empty slot has the value that
it begins with. -/
theorem isUsable_delete (usable : object.IsUsable) {left : OptionObject} {name : String}
    (deleted : object.delete name = .ok left) : left.IsUsable := by
  obtain ⟨stored, taken, rfl⟩ := Registry.map_eq_ok deleted
  unfold OptionClass.delete at taken
  split at taken
  · cases taken
  · apply usable.of_slots
    intro field member
    by_cases isWhole : name = Kept.whole
    · rw [Kept.take, if_pos isWhole] at taken
      cases taken
      exact .inl rfl
    · rw [Kept.under?_take isWhole taken]
      split
      · exact .inl rfl
      · exact .inr rfl

/-- An object knows its options until it is told otherwise. -/
theorem knowsOptions_assign (knows : object.KnowsOptions) {assigned : OptionObject}
    {name : String} {value : Value} (notReserved : isReserved name = false)
    (accepted : object.assign name value = .ok assigned) : assigned.KnowsOptions := by
  rcases assign_cases accepted with ⟨field, known, -, rfl⟩ | ⟨-, stored, given, rfl⟩
  · have apart : optionsPart ≠ field.slot :=
      optionsPart_ne_slot (List.mem_of_find?_eq_some known)
    exact (Kept.under?_enter _ _ _ _).trans ((if_neg apart).trans knows)
  · have apart : optionsPart ≠ name := by
      have isPart : isReserved optionsPart = true := by decide +kernel
      rintro rfl
      rw [isPart] at notReserved
      cases notReserved
    exact (Kept.under?_give (ne_whole_of_not_isReserved notReserved) given _).trans
      ((if_neg apart).trans knows)

theorem knowsOptions_delete (knows : object.KnowsOptions) {left : OptionObject} {name : String}
    (deleted : object.delete name = .ok left) : left.KnowsOptions := by
  obtain ⟨stored, taken, rfl⟩ := Registry.map_eq_ok deleted
  unfold OptionClass.delete at taken
  split at taken
  · cases taken
  · by_cases isWhole : name = Kept.whole
    · rw [Kept.take, if_pos isWhole] at taken
      cases taken
      rfl
    · refine (Kept.under?_take isWhole taken _).trans ?_
      split
      · rfl
      · exact knows

end Usable

/-! ### New objects -/

/-- What a new object keeps: its arguments, assigned in order, where options can be changed, and
otherwise nothing. -/
theorem stored_of_make {shape : Shape} {positional : List Value} {keywords : List (String × Value)}
    {object : OptionObject} (made : make shape positional keywords = .ok object) :
    object.shape = shape ∧
      if shape.isRewritable then
        shape.optionClass.assignAll [] (shape.fields.map fun field =>
          (field.name, argumentFor shape positional keywords field)) = .ok object.stored
      else object.stored = [] := by
  unfold make at made
  split at made
  · rename_i rewritable
    rw [if_pos rewritable]
    dsimp only at made
    split at made
    · cases made
    · split at made
      · cases made
      · obtain ⟨stored, assigned, rfl⟩ := Registry.map_eq_ok made
        exact ⟨rfl, assigned⟩
  · rename_i fixed
    rw [if_neg fixed]
    split at made
    · cases made
      exact ⟨rfl, rfl⟩
    · cases made

/-- What a new object holds: it is intact, and its options hold its arguments. -/
theorem make_eq_ok {shape : Shape} {positional : List Value} {keywords : List (String × Value)}
    {object : OptionObject} (made : make shape positional keywords = .ok object) :
    object.shape = shape ∧ object.IsIntact ∧
      (shape.isRewritable = true → ∀ field ∈ shape.fields,
        object.optionValue field = argumentFor shape positional keywords field) := by
  obtain ⟨rfl, kept⟩ := stored_of_make made
  refine ⟨rfl, ?_⟩
  split at kept
  · obtain ⟨given, untouched⟩ := OptionClass.assignAll_fields object.shape.isApart
      (fun _ member => member)
      object.shape.pairwise_fields kept
    have holds : ∀ field ∈ object.shape.fields, object.optionValue field =
        argumentFor object.shape positional keywords field := by
      intro field member
      rw [optionValue, OptionField.valueIn, (given field member).2, Option.getD_some]
    refine ⟨⟨?_, ?_⟩, fun _ => holds⟩
    · intro field member
      rw [holds field member]
      exact (given field member).1
    · exact untouched optionsPart fun field member => optionsPart_ne_slot member
  · rename_i fixed
    have isEmpty : object = ⟨object.shape, []⟩ := by rw [← kept]
    refine ⟨?_, fun rewritable => absurd rewritable fixed⟩
    rw [isEmpty]
    exact isIntact_new object.shape

/-! ### Copies -/

def overridden (fields given : List (String × Value)) : List (String × Value) :=
  fields.map fun field => (field.1, (given.lookup field.1).getD field.2)

theorem lookup_values (object : OptionObject) {field : OptionField}
    (member : field ∈ object.shape.fields) :
    object.values.lookup field.name = some (object.optionValue field) := by
  have distinct := object.shape.pairwise_fields
  unfold values
  generalize object.shape.fields = fields at member distinct
  induction fields with
  | nil => cases member
  | cons first rest inductionHypothesis =>
      rw [List.pairwise_cons] at distinct
      rcases List.mem_cons.1 member with rfl | later
      · simp
      · have isOther := distinct.1 field later
        rw [List.map_cons, List.lookup_cons, beq_eq_false_iff_ne.2 (Ne.symm isOther)]
        exact inductionHypothesis later distinct.2

/-- What a copy takes over from its base is found there under the names that are not given. -/
theorem lookup_filter_of_none (entries given : List (String × Value)) {name : String}
    (missing : given.lookup name = none) :
    (entries.filter fun entry => (given.lookup entry.1).isNone).lookup name =
      entries.lookup name := by
  induction entries with
  | nil => rfl
  | cons entry rest inductionHypothesis =>
      obtain ⟨key, value⟩ := entry
      by_cases same : name = key
      · subst same
        simp [missing]
      · rw [List.filter_cons]
        split
        · rw [List.lookup_cons, List.lookup_cons, beq_eq_false_iff_ne.2 same]
          exact inductionHypothesis
        · rw [List.lookup_cons, beq_eq_false_iff_ne.2 same]
          exact inductionHypothesis

/-- The options of a new object that is made with keywords only. -/
theorem values_of_make {shape : Shape} (rewritable : shape.isRewritable = true)
    {keywords : List (String × Value)} {object : OptionObject}
    (made : make shape [] keywords = .ok object) :
    object.values = shape.fields.map fun field =>
      (field.name, (keywords.lookup field.name).getD field.initial) := by
  obtain ⟨rfl, -, given⟩ := make_eq_ok made
  refine List.map_congr_left fun field member => ?_
  rw [given rewritable field member, argumentFor, List.zip_nil_right, List.lookup_nil]

section Copies

variable {base object : OptionObject} {keywords : List (String × Value)}

/-- A copy is intact, whatever its base is. -/
theorem isIntact_of_derive (derived : base.derive keywords = .ok object) :
    object.shape = base.shape ∧ object.IsIntact := by
  unfold derive at derived
  split at derived
  · obtain ⟨shape, intact, -⟩ := make_eq_ok derived
    exact ⟨shape, intact⟩
  · obtain ⟨shape, intact, -⟩ := make_eq_ok derived
    exact ⟨shape, intact⟩
  · cases derived
  · cases derived

/-- A copy holds what is given for it, and otherwise what its base holds. -/
theorem values_of_derive (knows : base.KnowsOptions) (rewritable : base.shape.isRewritable = true)
    (derived : base.derive keywords = .ok object) :
    object.values = overridden base.values keywords := by
  rw [derive, show base.stored? optionsPart = none from knows] at derived
  have isBase : base.values =
      base.shape.fields.map fun field => (field.name, base.optionValue field) := rfl
  rw [values_of_make rewritable derived, overridden, isBase, List.map_map]
  apply List.map_congr_left
  intro field member
  -- What is given stands before what the base has, so it is found first.
  rw [Function.comp_apply, List.lookup_append]
  cases named : keywords.lookup field.name with
  | some value => rfl
  | none =>
      rw [lookup_filter_of_none _ _ named, ← isBase, lookup_values base member]
      rfl

end Copies

end OptionObject

end ProtectionLimits
