import ProtectionLimits.Registry

/-!
Contract: what the search for a position finds.

Owns the laws of the first and of the last position whose item passes a test: a
position that is found lies inside the list and is the first or the last that passes,
nothing is found exactly when no item passes, and a search of the rows of a registry is
a search of its table.
-/

set_option autoImplicit false

namespace ProtectionLimits.Registry

variable {Item : Type} {test : Item → Bool} {items : List Item} {item : Item} {position : Nat}

/-- A list around one of its items. -/
theorem exists_split (held : items[position]? = some item) :
    ∃ front rest, items = front ++ item :: rest ∧ front.length = position := by
  obtain ⟨inside, rfl⟩ := List.getElem?_eq_some_iff.1 held
  refine ⟨items.take position, items.drop (position + 1), ?_, ?_⟩
  · rw [← List.drop_eq_getElem_cons inside, List.take_append_drop]
  · rw [List.length_take, Nat.min_eq_left (Nat.le_of_lt inside)]

/-! ### The first position -/

theorem lt_of_firstPosition? (found : firstPosition? test items = some position) :
    position < items.length := by
  induction items generalizing position with
  | nil => cases found
  | cons item rest inductionHypothesis =>
      by_cases passes : test item = true
      · rw [firstPosition?, if_pos passes] at found
        cases found
        exact Nat.zero_lt_succ rest.length
      · rw [firstPosition?, if_neg passes] at found
        obtain ⟨place, foundLater, rfl⟩ := Option.map_eq_some_iff.1 found
        exact Nat.succ_lt_succ (inductionHypothesis foundLater)

theorem firstPosition?_eq_none_iff :
    firstPosition? test items = none ↔ ∀ item ∈ items, test item = false := by
  induction items with
  | nil => simp [firstPosition?]
  | cons item rest inductionHypothesis =>
      by_cases passes : test item = true
      · simp [firstPosition?, passes]
      · rw [firstPosition?, if_neg passes, Option.map_eq_none_iff, inductionHypothesis]
        simp [passes]

/-- An item that passes is the first one if none in front of it does. -/
theorem firstPosition?_split {front : List Item} {item : Item} (rest : List Item)
    (passes : test item = true) (first : ∀ earlier ∈ front, test earlier = false) :
    firstPosition? test (front ++ item :: rest) = some front.length := by
  induction front with
  | nil => rw [List.nil_append, firstPosition?, if_pos passes, List.length_nil]
  | cons earlier front inductionHypothesis =>
      rw [List.forall_mem_cons] at first
      have notFirst : ¬ test earlier = true := Bool.eq_false_iff.1 first.1
      rw [List.cons_append, firstPosition?, if_neg notFirst, inductionHypothesis first.2,
        Option.map_some, List.length_cons]

/-- What is found passes, and nothing in front of it does. -/
theorem firstPosition?_spec (found : firstPosition? test items = some position) :
    (∃ item, items[position]? = some item ∧ test item = true) ∧
      ∀ earlier < position, ∀ item, items[earlier]? = some item → test item = false := by
  induction items generalizing position with
  | nil => cases found
  | cons head rest inductionHypothesis =>
      by_cases passes : test head = true
      · rw [firstPosition?, if_pos passes] at found
        cases found
        exact ⟨⟨head, rfl, passes⟩, fun _ inFront => absurd inFront (Nat.not_lt_zero _)⟩
      · rw [firstPosition?, if_neg passes] at found
        obtain ⟨place, foundLater, rfl⟩ := Option.map_eq_some_iff.1 found
        obtain ⟨passing, first⟩ := inductionHypothesis foundLater
        refine ⟨passing, ?_⟩
        intro earlier inFront item held
        cases earlier with
        | zero =>
            cases held
            exact Bool.eq_false_iff.2 passes
        | succ earlier => exact first earlier (Nat.lt_of_succ_lt_succ inFront) item held

theorem firstPosition?_map {Source : Type} (convert : Source → Item) (sources : List Source) :
    firstPosition? test (sources.map convert) =
      firstPosition? (fun source => test (convert source)) sources := by
  induction sources with
  | nil => rfl
  | cons source rest inductionHypothesis =>
      simp only [List.map_cons, firstPosition?, inductionHypothesis]

/-! ### The last position -/

theorem lt_of_lastPosition? (found : lastPosition? test items = some position) :
    position < items.length := by
  induction items generalizing position with
  | nil => cases found
  | cons item rest inductionHypothesis =>
      rw [lastPosition?] at found
      split at found
      case h_1 place foundLater =>
          cases found
          exact Nat.succ_lt_succ (inductionHypothesis foundLater)
      case h_2 =>
          split at found
          · cases found
            exact Nat.zero_lt_succ rest.length
          · cases found

theorem lastPosition?_eq_none_iff :
    lastPosition? test items = none ↔ ∀ item ∈ items, test item = false := by
  induction items with
  | nil => simp [lastPosition?]
  | cons item rest inductionHypothesis =>
      rw [lastPosition?]
      split
      case h_1 place foundLater =>
          have passesLater : ¬ ∀ other ∈ rest, test other = false := by
            rw [← inductionHypothesis, foundLater]
            exact Option.some_ne_none place
          simp only [reduceCtorEq, List.forall_mem_cons, passesLater, and_false]
      case h_2 notLater =>
          rw [List.forall_mem_cons, ← inductionHypothesis]
          by_cases passes : test item = true
          · simp [passes]
          · simp [passes, notLater]

/-- An item that passes is the last one if none behind it does. -/
theorem lastPosition?_split {item : Item} {rest : List Item} (front : List Item)
    (passes : test item = true) (last : ∀ later ∈ rest, test later = false) :
    lastPosition? test (front ++ item :: rest) = some front.length := by
  induction front with
  | nil =>
      rw [List.nil_append, lastPosition?, lastPosition?_eq_none_iff.2 last]
      simp only [passes, if_true, List.length_nil]
  | cons earlier front inductionHypothesis =>
      rw [List.cons_append, lastPosition?, inductionHypothesis, List.length_cons]

/-- What is found passes, and nothing behind it does. -/
theorem lastPosition?_spec (found : lastPosition? test items = some position) :
    (∃ item, items[position]? = some item ∧ test item = true) ∧
      ∀ later, position < later → ∀ item, items[later]? = some item → test item = false := by
  induction items generalizing position with
  | nil => cases found
  | cons head rest inductionHypothesis =>
      rw [lastPosition?] at found
      split at found
      case h_1 place foundLater =>
          cases found
          obtain ⟨passing, last⟩ := inductionHypothesis foundLater
          refine ⟨passing, ?_⟩
          intro later behind item held
          cases later with
          | zero => exact absurd behind (Nat.not_lt_zero _)
          | succ later => exact last later (Nat.lt_of_succ_lt_succ behind) item held
      case h_2 notLater =>
          split at found
          case isTrue passes =>
              cases found
              refine ⟨⟨head, rfl, passes⟩, ?_⟩
              intro later behind item held
              cases later with
              | zero => exact absurd behind (Nat.lt_irrefl 0)
              | succ later =>
                  exact lastPosition?_eq_none_iff.1 notLater item (List.mem_of_getElem? held)
          case isFalse => cases found

theorem lastPosition?_map {Source : Type} (convert : Source → Item) (sources : List Source) :
    lastPosition? test (sources.map convert) =
      lastPosition? (fun source => test (convert source)) sources := by
  induction sources with
  | nil => rfl
  | cons source rest inductionHypothesis =>
      simp only [List.map_cons, lastPosition?, inductionHypothesis]

/-! ### Searches of a table -/

theorem getElem?_limits (registry : Registry) (position : Nat) :
    registry.limits[position]? = registry.rows[position]?.map Row.limit :=
  List.getElem?_map

@[simp] theorem length_limits (registry : Registry) :
    registry.limits.length = registry.rows.length :=
  List.length_map _

/-- The first limit of the table that answers to a name. -/
def positionNamed? (limits : List Limit) (name : Value) : Option Nat :=
  firstPosition? (fun limit => limit.answersTo name) limits

/-- The last place of the table where the very object stands that is named. -/
def positionOfTarget? (limits : List Limit) : Target → Option Nat
  | .item limit => lastPosition? (fun other => other.identity == limit.identity) limits
  | _ => none

theorem lt_of_positionOfTarget? {limits : List Limit} {target : Target} {position : Nat}
    (managed : positionOfTarget? limits target = some position) : position < limits.length := by
  cases target with
  | item limit => exact lt_of_lastPosition? managed
  | _ => cases managed

theorem indexOf_of_named {registry : Registry} {name : Value} {position : Nat}
    (named : positionNamed? registry.limits name = some position) :
    registry.indexOf name = position := by
  rw [positionNamed?, limits, firstPosition?_map] at named
  rw [indexOf, named]

theorem indexOf_of_unnamed {registry : Registry} {name : Value}
    (unnamed : positionNamed? registry.limits name = none) :
    registry.indexOf name =
      if name.equals (.text entityCountInfo) then (entityCountInfoIndex : Int) else -1 := by
  rw [positionNamed?, limits, firstPosition?_map] at unnamed
  rw [indexOf, unnamed]

theorem positionOf_eq (registry : Registry) (target : Target) :
    registry.positionOf target =
      match positionOfTarget? registry.limits target with
      | some position => .ok position
      | none => .error (.limitUnmanaged target registry.exhibit) := by
  cases target with
  | item limit =>
      rw [positionOf, positionOfTarget?, limits, lastPosition?_map]
      rfl
  | stranger limit => rfl
  | value content => rfl

end ProtectionLimits.Registry
