import Mathlib.Algebra.Group.Nat.Defs
import ProtectionLimits.Proofs.Registry.Operation

/-!
Contract: what each way of reading a limit finds.

Owns one law for each way of reading the row at a position: by index, by name, by the
item that is named and by key. All of them give what that row holds. An index that
addresses the report of entity counts is read as text from there. The text of an integer is its
decimal form, unless it has too many digits for one. Keys are told apart
where the values by key are collected, and again where one of them is looked up.
-/

set_option autoImplicit false

namespace ProtectionLimits.Registry

variable {registry : Registry} {position : Nat} {row : Row}

/-! ### By index, by item and by name -/

theorem isTooLong_of_lt {value : Int} (small : value.natAbs < 10 ^ 10) :
    Decimal.isTooLong value = false := by
  have grows (width : Nat) (wide : 10 ≤ width) : 10 ^ 10 ≤ Nat.pow 10 width :=
    Nat.pow_le_pow_right (by decide) wide
  have bound := grows Decimal.mostDigits (by decide)
  exact decide_eq_false (Nat.not_le_of_lt (Nat.lt_of_lt_of_le small bound))

/-- An integer that has not too many digits is shown by them. -/
theorem displayed_int {value : Int} (short : Decimal.isTooLong value = false) :
    (Value.int value).displayed = .ok (Decimal.integer value) := by
  have writable : (Value.int value).unwritable? = none := by
    rw [Value.unwritable?, short]
    rfl
  rw [Value.displayed, writable]
  rfl

theorem rowAt_of_held (held : registry.rows[position]? = some row) :
    registry.rowAt (.int position) = .ok row := by
  have inside : position < registry.rows.length := (List.getElem?_eq_some_iff.1 held).1
  simp only [rowAt, bind, Except.bind, pure, Except.pure, positionAt_of_lt inside, held]

theorem rowOf_of_managed {target : Target}
    (managed : positionOfTarget? registry.limits target = some position)
    (held : registry.rows[position]? = some row) : registry.rowOf target = .ok row := by
  have found : registry.positionOf target = .ok position := by rw [positionOf_eq, managed]
  simp only [rowOf, bind, Except.bind, pure, Except.pure, found, held]

theorem textAt_of_held (notAddressed : addressesEntityCounts (.int position) = false)
    (held : registry.rows[position]? = some row) :
    registry.textAt (.int position) = (rowText row).map .text := by
  rw [textAt, if_neg (Bool.eq_false_iff.1 notAddressed), rowAt_of_held held]
  rfl

theorem textNamed_of_named {name : Value}
    (notAddressed : addressesEntityCounts (.int position) = false)
    (named : positionNamed? registry.limits name = some position)
    (held : registry.rows[position]? = some row) :
    registry.textNamed name = (rowText row).map .text := by
  rw [textNamed, indexOf_of_named named, ← textAt_of_held notAddressed held]
  exact if_neg (by omega)

/-! ### By key -/

/-- Whether the limits of a table can be told apart by their keys. -/
structure HasOwnKeys (limits : List Limit) : Prop where
  keyable : ∀ limit ∈ limits, limit.key.unkeyable? = none
  reflexive : ∀ limit ∈ limits, limit.key.equals limit.key = true
  apart : limits.Pairwise fun earlier later => later.key.equals earlier.key = false

theorem enterByKey_of_apart {Item : Type} {entries : List (Limit × Item)} {limit : Limit}
    (apart : ∀ entry ∈ entries, sameKey limit entry.1 = false) (item : Item) :
    enterByKey entries limit item = entries ++ [(limit, item)] := by
  induction entries with
  | nil => rfl
  | cons entry rest inductionHypothesis =>
      rw [List.forall_mem_cons] at apart
      rw [enterByKey, if_neg (Bool.eq_false_iff.1 apart.1), inductionHypothesis apart.2,
        List.cons_append]

/-- Rows whose keys are apart are entered one behind the other. -/
theorem foldlM_enterKeyed_of_apart {rows : List Row} {entries : List (Limit × Value)}
    (keyable : ∀ row ∈ rows, row.limit.key.unkeyable? = none)
    (apart : rows.Pairwise fun earlier later => sameKey later.limit earlier.limit = false)
    (fresh : ∀ row ∈ rows, ∀ entry ∈ entries, sameKey row.limit entry.1 = false) :
    rows.foldlM (fun entries row => enterKeyed entries row.limit row.value) entries =
      .ok (entries ++ rows.map fun row => (row.limit, row.value)) := by
  induction rows generalizing entries with
  | nil =>
      rw [List.map_nil, List.append_nil]
      rfl
  | cons row rest inductionHypothesis =>
      rw [List.forall_mem_cons] at keyable fresh
      rw [List.pairwise_cons] at apart
      have entered : enterKeyed entries row.limit row.value =
          .ok (entries ++ [(row.limit, row.value)]) := by
        rw [enterKeyed, keyable.1]
        dsimp only
        rw [enterByKey_of_apart fresh.1]
      have stillFresh : ∀ later ∈ rest, ∀ entry ∈ entries ++ [(row.limit, row.value)],
          sameKey later.limit entry.1 = false := by
        intro later member entry isEntered
        rcases List.mem_append.1 isEntered with old | new
        · exact fresh.2 later member entry old
        · rw [List.mem_singleton.1 new]
          exact apart.1 later member
      have restEntered := inductionHypothesis keyable.2 apart.2 stillFresh
      rw [List.append_assoc] at restEntered
      rw [List.foldlM_cons, entered, List.map_cons]
      exact restEntered

/-- Where keys are apart the values by key are those of the rows, in table order. -/
theorem byKey_of_apart (own : HasOwnKeys registry.limits)
    (distinct : (registry.limits.map Limit.identity).Nodup) :
    registry.byKey = .ok (registry.rows.map fun row => (row.limit.key, row.value)) := by
  have keyable : ∀ row ∈ registry.rows, row.limit.key.unkeyable? = none :=
    List.forall_mem_map.1 own.keyable
  have apart : registry.rows.Pairwise fun earlier later =>
      sameKey later.limit earlier.limit = false := by
    have both := own.apart.and (List.pairwise_map.1 distinct)
    refine (List.pairwise_map.1 both).imp ?_
    rintro earlier later ⟨keys, identities⟩
    rw [sameKey, keys, Bool.or_false, beq_eq_false_iff_ne]
    exact identities.symm
  have fresh : ∀ row ∈ registry.rows, ∀ entry ∈ ([] : List (Limit × Value)),
      sameKey row.limit entry.1 = false := by
    intro row _ entry absent
    cases absent
  rw [byKey, foldlM_enterKeyed_of_apart keyable apart fresh, List.nil_append]
  simp only [Except.map, List.map_map, Function.comp_def]

theorem lookup?_split {Item : Type} {front : List (Value × Item)} {key : Value}
    (reflexive : key.equals key = true) (item : Item) (rest : List (Value × Item))
    (first : ∀ entry ∈ front, key.equals entry.1 = false) :
    Value.lookup? key (front ++ (key, item) :: rest) = some item := by
  induction front with
  | nil => rw [List.nil_append, Value.lookup?, if_pos reflexive]
  | cons entry front inductionHypothesis =>
      rw [List.forall_mem_cons] at first
      rw [List.cons_append, Value.lookup?, if_neg (Bool.eq_false_iff.1 first.1),
        inductionHypothesis first.2]

/-- Under the key of a limit stands the value of its row. -/
theorem lookup?_byKey (own : HasOwnKeys registry.limits)
    (distinct : (registry.limits.map Limit.identity).Nodup)
    (held : registry.rows[position]? = some row) :
    ∃ entries, registry.byKey = .ok entries ∧
      Value.lookup? row.limit.key entries = some row.value := by
  refine ⟨_, byKey_of_apart own distinct, ?_⟩
  have reflexive : row.limit.key.equals row.limit.key = true :=
    own.reflexive row.limit (List.mem_map_of_mem (List.mem_of_getElem? held))
  have apart := List.pairwise_map.1 own.apart
  obtain ⟨front, rest, split, -⟩ := exists_split held
  rw [split] at apart ⊢
  rw [List.map_append, List.map_cons]
  apply lookup?_split reflexive
  intro entry member
  obtain ⟨earlier, inFront, rfl⟩ := List.mem_map.1 member
  exact (List.pairwise_append.1 apart).2.2 earlier inFront row (List.mem_cons_self ..)

end ProtectionLimits.Registry
