import Mathlib.Algebra.Group.Int.Defs
import ProtectionLimits.Proofs.Registry.EntityCounts
import ProtectionLimits.Proofs.Registry.EntryPoints
import ProtectionLimits.Proofs.Registry.Refusal

/-!
Contract: which row is addressed where items of a table are alike.

Owns the places of a table where an object stands and those whose limit answers to a name, told
apart from how either is searched for. Items may be equal, share names, or stand in a table more
than once. The object itself addresses the last place where it stands (`IsLastPlace`), and nothing
that is only equal to it addresses any; a name addresses the first limit that answers to it
(`IsFirstPlace`). All rows but the one that is addressed stay as they are.

Does not own what an offer does to the row; `Proofs.Registry.EntryPoints` does.
-/

set_option autoImplicit false

namespace ProtectionLimits.Registry

/-! ### Places -/

/-- Whether the very object that is named stands at a place of a table. -/
def StandsAt (limits : List Limit) (target : Target) (position : Nat) : Prop :=
  ∃ named other, target = .item named ∧ limits[position]? = some other ∧
    other.identity = named.identity

/-- Whether it stands there and at no later place. -/
def IsLastPlace (limits : List Limit) (target : Target) (position : Nat) : Prop :=
  StandsAt limits target position ∧ ∀ later, position < later → ¬ StandsAt limits target later

def AnswersAt (limits : List Limit) (name : Value) (position : Nat) : Prop :=
  ∃ limit, limits[position]? = some limit ∧ limit.answersTo name = true

def IsFirstPlace (limits : List Limit) (name : Value) (position : Nat) : Prop :=
  AnswersAt limits name position ∧ ∀ earlier < position, ¬ AnswersAt limits name earlier

section Table

variable {limits : List Limit} {position : Nat}

theorem IsLastPlace.unique {target : Target} {other : Nat}
    (isLast : IsLastPlace limits target position) (isLastToo : IsLastPlace limits target other) :
    position = other := by
  rcases Nat.lt_trichotomy position other with before | same | behind
  · exact absurd isLastToo.1 (isLast.2 other before)
  · exact same
  · exact absurd isLast.1 (isLastToo.2 position behind)

theorem IsFirstPlace.unique {name : Value} {other : Nat}
    (isFirst : IsFirstPlace limits name position) (isFirstToo : IsFirstPlace limits name other) :
    position = other := by
  rcases Nat.lt_trichotomy position other with before | same | behind
  · exact absurd isFirst.1 (isFirstToo.2 position before)
  · exact same
  · exact absurd isFirstToo.1 (isFirst.2 other behind)

/-- The search for an item finds the last of its places. -/
theorem isLastPlace_of_managed {target : Target}
    (managed : positionOfTarget? limits target = some position) :
    IsLastPlace limits target position := by
  cases target with
  | item named =>
      obtain ⟨⟨other, held, same⟩, last⟩ := lastPosition?_spec managed
      refine ⟨⟨named, other, rfl, held, eq_of_beq same⟩, ?_⟩
      rintro later behind ⟨_, item, ⟨⟩, heldLater, sameLater⟩
      have different := last later behind item heldLater
      rw [sameLater, beq_self_eq_true] at different
      cases different
  | _ => cases managed

theorem positionOfTarget?_eq_none_iff {target : Target} :
    positionOfTarget? limits target = none ↔ ∀ position, ¬ StandsAt limits target position := by
  constructor
  · rintro unmanaged position ⟨named, other, rfl, held, same⟩
    have different := lastPosition?_eq_none_iff.1 unmanaged other (List.mem_of_getElem? held)
    rw [same, beq_self_eq_true] at different
    cases different
  · intro nowhere
    cases managed : positionOfTarget? limits target with
    | none => rfl
    | some position => exact absurd (isLastPlace_of_managed managed).1 (nowhere position)

/-- The search for a name finds the first place that answers to it. -/
theorem isFirstPlace_of_named {name : Value}
    (named : positionNamed? limits name = some position) : IsFirstPlace limits name position := by
  obtain ⟨answering, first⟩ := firstPosition?_spec named
  refine ⟨answering, ?_⟩
  rintro earlier inFront ⟨limit, held, answers⟩
  rw [first earlier inFront limit held] at answers
  cases answers

theorem positionNamed?_eq_none_iff {name : Value} :
    positionNamed? limits name = none ↔ ∀ position, ¬ AnswersAt limits name position := by
  constructor
  · rintro unnamed position ⟨limit, held, answers⟩
    rw [firstPosition?_eq_none_iff.1 unnamed limit (List.mem_of_getElem? held)] at answers
    cases answers
  · intro nowhere
    cases named : positionNamed? limits name with
    | none => rfl
    | some position => exact absurd (isFirstPlace_of_named named).1 (nowhere position)

end Table

/-! ### Rows -/

/-- Whether nothing but the row at a position may differ behind an outcome. -/
def Outcome.Spares (outcome : Outcome) (registry : Registry) (position : Nat) : Prop :=
  ∃ reached, outcome.form = .sound reached ∧
    ∀ other, other ≠ position → reached.rows[other]? = registry.rows[other]?

/-- Whether the calls about an item are calls about the row at a position. -/
structure ItemReaches (registry : Registry) (target : Target) (position : Nat) (row : Row) :
    Prop where
  set : ∀ level state value, registry.IsOffer position row level state value .nothing
    ((Form.sound registry).perform level (.item target (.state state) (.int value)))
  frame : ∀ level state value, ((Form.sound registry).perform level
    (.item target (.state state) (.int value))).Spares registry position
  value : registry.answer (.item .value target) = .ok (.value row.value)
  state : registry.answer (.item .state target) = .ok (.state row.state)
  isSet : registry.answer (.item .isSet target) = .ok (.truth row.isSet)

/-- Whether the calls about a name are calls about the row at a position. -/
structure NameReaches (registry : Registry) (name : Value) (position : Nat) (row : Row) :
    Prop where
  set : ∀ level state setting value,
    Setting.parse row.limit.apiProperty setting = .ok value →
    registry.IsOffer position row level state value (.truth true)
      ((Form.sound registry).perform level (.named name (.state state) setting))
  refuse : ∀ level state setting fault,
    Setting.parse row.limit.apiProperty setting = .error fault →
    (Form.sound registry).perform level (.named name (.state state) setting) =
      ⟨.sound registry, .error fault, []⟩
  frame : ∀ level state setting, ((Form.sound registry).perform level
    (.named name (.state state) setting)).Spares registry position
  text : registry.answer (.textNamed name) =
    (row.value.displayed.mapError .unwritable).map .text

/-- What is raised where a target is no item of a registry: a value error, or what keeps the target
or the registry from being shown in its message. -/
def missingRefusal (registry : Registry) (target : Target) : Refusal :=
  .unless (target.exhibit.unwritable?.or registry.exhibit.unwritable?) ⟨.limitsValue, none⟩

/-- Whether the calls about an item fail since it is missing, and change nothing. -/
structure ItemMissing (registry : Registry) (translation : Translation) (target : Target) :
    Prop where
  set : ∀ level state value, ∃ fault,
    (Form.sound registry).perform level (.item target (.state state) (.int value)) =
      ⟨.sound registry, .error fault, []⟩ ∧
    (fault.report translation.message).refusal = registry.missingRefusal target
  read : ∀ aspect, ∃ fault, registry.answer (.item aspect target) = .error fault ∧
    (fault.report translation.message).refusal = registry.missingRefusal target

section Rows

variable {registry : Registry} {position : Nat} {row : Row}

/-- An offer to the row at a position leaves the rows at all others alone. -/
theorem IsOffer.spares {level value : Int} {state : State} {reply : Reply} {outcome : Outcome}
    (offer : registry.IsOffer position row level state value reply outcome) :
    outcome.Spares registry position :=
  ⟨_, offer.form, fun _ apart => List.getElem?_set_ne apart.symm⟩

theorem isOffer_item {target : Target}
    (managed : positionOfTarget? registry.limits target = some position)
    (held : registry.rows[position]? = some row) (level : Int) (state : State) (value : Int) :
    registry.IsOffer position row level state value .nothing
      ((Form.sound registry).perform level (.item target (.state state) (.int value))) := by
  refine isOffer_of_decision held ?_ level
  rw [Call.decision, decideItem_of_managed managed]
  rfl

theorem itemReaches_of_managed {target : Target}
    (managed : positionOfTarget? registry.limits target = some position)
    (held : registry.rows[position]? = some row) : registry.ItemReaches target position row where
  set := isOffer_item managed held
  frame level state value := (isOffer_item managed held level state value).spares
  value := by
    rw [answer, answerItem, rowOf_of_managed managed held]
    rfl
  state := by
    rw [answer, answerItem, rowOf_of_managed managed held]
    rfl
  isSet := by
    rw [answer, answerItem, rowOf_of_managed managed held]
    rfl

theorem nameReaches_of_named {name : Value}
    (notAddressed : addressesEntityCounts (.int position) = false)
    (named : positionNamed? registry.limits name = some position)
    (held : registry.rows[position]? = some row) : registry.NameReaches name position row := by
  have heldLimit : registry.limits[position]? = some row.limit := by
    rw [getElem?_limits, held, Option.map_some]
  have decides := decideNamed_of_inside notAddressed named heldLimit
  have set (level : Int) (state : State) (setting : Value) (value : Int)
      (accepted : Setting.parse row.limit.apiProperty setting = .ok value) :
      registry.IsOffer position row level state value (.truth true)
        ((Form.sound registry).perform level (.named name (.state state) setting)) := by
    refine isOffer_of_decision held ?_ level
    rw [Call.decision, decides, accepted]
    rfl
  have refuse (level : Int) (state : State) (setting : Value) (fault : Fault)
      (refused : Setting.parse row.limit.apiProperty setting = .error fault) :
      (Form.sound registry).perform level (.named name (.state state) setting) =
        ⟨.sound registry, .error fault, []⟩ := by
    refine form_perform_named_of_fault level ?_
    rw [decides, refused]
    rfl
  refine ⟨set, refuse, ?_, ?_⟩
  · intro level state setting
    cases parsed : Setting.parse row.limit.apiProperty setting with
    | error fault =>
        rw [refuse level state setting fault parsed]
        exact ⟨registry, rfl, fun _ _ => rfl⟩
    | ok value => exact (set level state setting value parsed).spares
  · rw [answer, textNamed_of_named notAddressed named held, map_text]

theorem itemMissing_of_unmanaged {translation : Translation}
    (untranslated : translation.isActive = false) {target : Target}
    (unmanaged : positionOfTarget? registry.limits target = none) :
    registry.ItemMissing translation target := by
  have reported : ((Fault.limitUnmanaged target registry.exhibit).report
      translation.message).refusal = registry.missingRefusal target := by
    rw [Fault.refusal_report untranslated, Fault.refusal_limitUnmanaged]
    rfl
  constructor
  · intro level state value
    refine ⟨.limitUnmanaged target registry.exhibit, form_perform_of_fault ?_ level, ?_⟩
    · simp only [Call.decision, decideItem, unmanaged]
      rfl
    · exact reported
  · intro aspect
    refine ⟨.limitUnmanaged target registry.exhibit, ?_, ?_⟩
    · simp only [answer, answerItem, rowOf, positionOf_eq, unmanaged]
      rfl
    · exact reported

end Rows

/-- Where items of a table are alike, each call still addresses one row. In any registry over a
table that ends before the index of the report of entity counts, setting the value of an object
and asking for its value, its state or its flag are about the last place where this very object
stands. They fail exactly if it stands nowhere, without any change, also where it equals an item
of the table: with a value error, unless the object or the registry cannot be shown in one.
Setting by a name and reading its text are about the first place whose limit answers to it.
Whatever is set, the rows at all other places stay as they are, those of equal items, of items of
the same names and of the same object among them. -/
theorem calls_address_one_place {translation : Translation}
    (untranslated : translation.isActive = false) {registry : Registry}
    (short : registry.limits.length ≤ entityCountInfoIndex) :
    (∀ target, (∃ position, StandsAt registry.limits target position) →
      ∃ position row, IsLastPlace registry.limits target position ∧
        registry.rows[position]? = some row ∧ registry.ItemReaches target position row) ∧
    (∀ target, (∀ position, ¬ StandsAt registry.limits target position) →
      registry.ItemMissing translation target) ∧
    (∀ name, (∃ position, AnswersAt registry.limits name position) →
      ∃ position row, IsFirstPlace registry.limits name position ∧
        registry.rows[position]? = some row ∧ registry.NameReaches name position row) := by
  have exists_held {position : Nat} (inside : position < registry.limits.length) :
      ∃ row, registry.rows[position]? = some row := by
    rw [length_limits] at inside
    exact ⟨_, List.getElem?_eq_getElem inside⟩
  refine ⟨?_, ?_, ?_⟩
  · rintro target ⟨place, stands⟩
    cases managed : positionOfTarget? registry.limits target with
    | none => exact absurd stands (positionOfTarget?_eq_none_iff.1 managed place)
    | some position =>
        obtain ⟨row, held⟩ := exists_held (lt_of_positionOfTarget? managed)
        exact ⟨position, row, isLastPlace_of_managed managed, held,
          itemReaches_of_managed managed held⟩
  · intro target nowhere
    exact itemMissing_of_unmanaged untranslated (positionOfTarget?_eq_none_iff.2 nowhere)
  · rintro name ⟨place, answers⟩
    cases named : positionNamed? registry.limits name with
    | none => exact absurd answers (positionNamed?_eq_none_iff.1 named place)
    | some position =>
        have inside : position < registry.limits.length := lt_of_firstPosition? named
        have notAddressed := addressesEntityCounts_of_lt (Nat.lt_of_lt_of_le inside short)
        obtain ⟨row, held⟩ := exists_held inside
        exact ⟨position, row, isFirstPlace_of_named named, held,
          nameReaches_of_named notAddressed named held⟩

/-- A table with one object in its first and its last place and an equal one between them. The
object is set at its last place, their common name stands for the first, and a third object that
equals both is missed. -/
theorem calls_address_one_place_repeated :
    ∃ (item twin third : Limit) (registry : Registry),
      item.contents = twin.contents ∧ item.contents = third.contents ∧
      [item, twin, third].Pairwise (fun left right => left.identity ≠ right.identity) ∧
      registry.limits = [item, twin, item] ∧
      (∃ row, registry.rows[2]? = some row ∧ registry.ItemReaches (.item item) 2 row) ∧
      (∃ row, registry.rows[0]? = some row ∧ registry.NameReaches (.text "depth") 0 row) ∧
      registry.ItemMissing .initial (.item third) := by
  let item : Limit := ⟨.custom 0, .text "Depth", .text "depth", .text "X_DEPTH", .int 0, .int 9⟩
  let twin : Limit := { item with identity := .custom 1 }
  let third : Limit := { item with identity := .custom 2 }
  let registry : Registry :=
    ⟨[item, twin, item].map (Row.initial false), .text "", .bool false, .text "source", .absent⟩
  have short : registry.limits.length ≤ entityCountInfoIndex := by decide
  obtain ⟨items, missing, names⟩ :=
    calls_address_one_place (show Translation.initial.isActive = false from rfl) short
  have isLast : IsLastPlace registry.limits (.item item) 2 := isLastPlace_of_managed (by decide)
  have isFirst : IsFirstPlace registry.limits (.text "depth") 0 :=
    isFirstPlace_of_named (by decide)
  obtain ⟨place, row, isPlace, held, reaches⟩ := items (.item item) ⟨2, isLast.1⟩
  obtain ⟨front, first, isFront, heldFirst, reachesFirst⟩ := names (.text "depth") ⟨0, isFirst.1⟩
  obtain rfl := isPlace.unique isLast
  obtain rfl := isFront.unique isFirst
  have nowhere : ∀ position, ¬ StandsAt registry.limits (.item third) position :=
    positionOfTarget?_eq_none_iff.1 (by decide)
  exact ⟨item, twin, third, registry, rfl, rfl, by decide, rfl, ⟨row, held, reaches⟩,
    ⟨first, heldFirst, reachesFirst⟩, missing _ nowhere⟩

/-- An integer of more digits than one is ever shown with is no item of the standard table, and to
ask for its limit fails as it cannot be shown. -/
theorem calls_address_one_place_long_number :
    ∃ (creation : Creation) (registry : Registry),
      (create creation 30).result = .ok registry ∧
      registry.limits = Limit.standardTable ∧
      (∀ position, ¬ StandsAt registry.limits (.value (.int (10 ^ 5000))) position) ∧
      ∃ fault, registry.answer (.item .value (.value (.int (10 ^ 5000)))) = .error fault ∧
        (fault.report Translation.initial.message).refusal =
          ⟨.standard "ValueError", none⟩ := by
  let creation : Creation :=
    ⟨.bool false, .limits Limit.standardTable, .prepared [], .absent, .absent, []⟩
  obtain ⟨registry, begun⟩ : ∃ registry, (bootstrap creation.source.get creation.source.exhibit
    creation.names creation.secure Limit.standardTable).2 = .ok registry := ⟨_, rfl⟩
  have tooLong : (Target.value (.int (10 ^ 5000))).exhibit.unwritable? = some Value.tooLong :=
    (Exhibit.unwritable?_value _).trans (by decide +kernel)
  have missing : registry.ItemMissing .initial (.value (.int (10 ^ 5000))) :=
    itemMissing_of_unmanaged rfl rfl
  obtain ⟨fault, failed, refusal⟩ := missing.read .value
  refine ⟨creation, registry, begun, limits_of_bootstrap begun,
    positionOfTarget?_eq_none_iff.1 rfl, fault, failed, refusal.trans ?_⟩
  rw [missingRefusal, tooLong]
  rfl

end ProtectionLimits.Registry
