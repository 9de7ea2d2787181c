import Mathlib.Data.List.FinRange
import Mathlib.Logic.Equiv.Defs
import ProtectionLimits.Proofs.Registry.History

/-!
Contract: the same calls in another order.

Owns what it is for items to come in another order that keeps dependent items as
they were, and which calls depend on each other: two that write to a common row with
the same state, two settings for the report of entity counts, and two requests for
secure processing. The order of any other two decides nothing, since a registry
keeps of its history what each row was offered with each state and what was asked
for last, and both stay as they are.
-/

set_option autoImplicit false

namespace ProtectionLimits

section

variable {Item Said : Type} {dependent : Item → Item → Prop} {first second : List Item}

/-- Whether a list holds the items of another one, in an order that keeps dependent items
as they were. Equal items are told apart by their places. -/
def KeepsOrder (dependent : Item → Item → Prop) (first second : List Item) : Prop :=
  ∃ move : Fin first.length ≃ Fin second.length,
    (∀ place, second.get (move place) = first.get place) ∧
      ∀ earlier later, earlier < later → dependent (first.get earlier) (first.get later) →
        move earlier < move later

/-- The places of the items that pass a test, in order. -/
def placesPassing (test : Item → Bool) (items : List Item) : List (Fin items.length) :=
  (List.finRange items.length).filter fun place => test (items.get place)

theorem mem_placesPassing {test : Item → Bool} {items : List Item} {place : Fin items.length} :
    place ∈ placesPassing test items ↔ test (items.get place) = true := by
  simp [placesPassing]

theorem pairwise_placesPassing (test : Item → Bool) (items : List Item) :
    (placesPassing test items).Pairwise (· < ·) :=
  (List.pairwise_lt_finRange items.length).filter _

theorem map_placesPassing (test : Item → Bool) (items : List Item) :
    (placesPassing test items).map items.get = items.filter test := by
  calc (placesPassing test items).map items.get
      = ((List.finRange items.length).map items.get).filter test := List.filter_map.symm
    _ = items.filter test := by rw [List.map_get_finRange]

/-- An order that is kept among the items that pass a test is the order in which they
come. -/
theorem KeepsOrder.filter_eq (reordered : KeepsOrder dependent first second)
    {test : Item → Bool}
    (kept : ∀ left right, test left = true → test right = true → dependent left right) :
    first.filter test = second.filter test := by
  obtain ⟨move, moved, ordered⟩ := reordered
  have increasing : ((placesPassing test first).map move).Pairwise (· < ·) := by
    rw [List.pairwise_map]
    refine (pairwise_placesPassing test first).imp_of_mem ?_
    intro earlier later earlierMember laterMember before
    exact ordered earlier later before
      (kept _ _ (mem_placesPassing.1 earlierMember) (mem_placesPassing.1 laterMember))
  have sameMembers : ∀ place,
      place ∈ (placesPassing test first).map move ↔ place ∈ placesPassing test second := by
    intro place
    rw [List.mem_map]
    constructor
    · rintro ⟨origin, member, rfl⟩
      rw [mem_placesPassing, moved]
      exact mem_placesPassing.1 member
    · intro member
      refine ⟨move.symm place, ?_, move.apply_symm_apply place⟩
      rw [mem_placesPassing, ← moved, move.apply_symm_apply]
      exact mem_placesPassing.1 member
  -- Both lists go upwards through the same places.
  have samePlaces : (placesPassing test first).map move = placesPassing test second := by
    refine List.Perm.eq_of_pairwise ?_ increasing (pairwise_placesPassing test second) ?_
    · intro left right _ _ below above
      exact absurd above (lt_asymm below)
    · exact (List.perm_ext_iff_of_nodup (increasing.imp ne_of_lt)
        ((pairwise_placesPassing test second).imp ne_of_lt)).2 sameMembers
  rw [← map_placesPassing, ← map_placesPassing, ← samePlaces, List.map_map]
  refine List.map_congr_left ?_
  intro place _
  exact (moved place).symm

/-- So is what these items say. -/
theorem KeepsOrder.filterMap_eq (reordered : KeepsOrder dependent first second)
    {said : Item → Option Said}
    (kept : ∀ left right, (said left).isSome = true → (said right).isSome = true →
      dependent left right) :
    first.filterMap said = second.filterMap said := by
  have onlySaid : ∀ items : List Item,
      items.filterMap said = (items.filter fun item => (said item).isSome).filterMap said := by
    intro items
    rw [List.filterMap_filter]
    refine List.filterMap_congr ?_
    intro item _
    cases said item <;> rfl
  rw [onlySaid first, onlySaid second, reordered.filter_eq kept]

/-- Items of which no two depend on each other can come in the opposite order. -/
theorem keepsOrder_reverse
    (independent : first.Pairwise fun earlier later => ¬ dependent earlier later) :
    KeepsOrder dependent first first.reverse := by
  refine ⟨Fin.revPerm.trans (finCongr List.length_reverse.symm), ?_, ?_⟩
  · intro place
    simp only [List.get_eq_getElem, List.getElem_reverse, Equiv.trans_apply, Fin.revPerm_apply,
      finCongr_apply, Fin.val_cast, Fin.val_rev]
    congr 1
    omega
  · intro earlier later before depends
    exact absurd depends (List.pairwise_iff_getElem.1 independent earlier later earlier.isLt
      later.isLt before)

end

namespace Registry

/-- Whether the order of two calls decides anything: they write to a common row with the
same state, both set the report of entity counts, or both ask for secure processing. -/
def Interfere (limits : List Limit) (left right : Call Target) : Prop :=
  (∃ position leftWrite rightWrite,
      (left.impact limits).writeAt? limits position = some leftWrite ∧
      (right.impact limits).writeAt? limits position = some rightWrite ∧
      leftWrite.state = rightWrite.state) ∨
    ((left.impact limits).entityCounts?.isSome = true ∧
      (right.impact limits).entityCounts?.isSome = true) ∨
    ((left.impact limits).secure?.isSome = true ∧ (right.impact limits).secure?.isSome = true)

variable {limits : List Limit} {first second : List (Call Target)}

theorem writesWith_writesTo_eq (reordered : KeepsOrder (Interfere limits) first second)
    (position : Nat) (state : State) :
    Row.writesWith state (writesTo limits position (impacts limits first)) =
      Row.writesWith state (writesTo limits position (impacts limits second)) := by
  simp only [Row.writesWith, writesTo, impacts, List.filterMap_map, List.filter_filterMap]
  refine reordered.filterMap_eq ?_
  intro left right leftWrites rightWrites
  obtain ⟨leftWrite, leftSaid⟩ := Option.isSome_iff_exists.1 leftWrites
  obtain ⟨rightWrite, rightSaid⟩ := Option.isSome_iff_exists.1 rightWrites
  rw [Option.filter_eq_some_iff, decide_eq_true_eq] at leftSaid rightSaid
  refine .inl ⟨position, leftWrite, rightWrite, leftSaid.1, rightSaid.1, ?_⟩
  rw [leftSaid.2, rightSaid.2]

theorem settingsAmong_eq (reordered : KeepsOrder (Interfere limits) first second) :
    settingsAmong (impacts limits first) = settingsAmong (impacts limits second) := by
  rw [settingsAmong, settingsAmong, impacts, impacts, List.filterMap_map, List.filterMap_map]
  refine reordered.filterMap_eq ?_
  intro left right leftSets rightSets
  exact .inr (.inl ⟨leftSets, rightSets⟩)

theorem requestsAmong_eq (reordered : KeepsOrder (Interfere limits) first second) :
    requestsAmong (impacts limits first) = requestsAmong (impacts limits second) := by
  rw [requestsAmong, requestsAmong, impacts, impacts, List.filterMap_map, List.filterMap_map]
  refine reordered.filterMap_eq ?_
  intro left right leftAsks rightAsks
  exact .inr (.inr ⟨leftAsks, rightAsks⟩)

/-- Calls in another order that keeps interfering calls as they were leave the same
registry. -/
theorem afterAll_eq_of_keepsOrder {start : Registry}
    (short : start.limits.length ≤ entityCountInfoIndex)
    (reordered : KeepsOrder (Interfere start.limits) first second) :
    start.afterAll first = start.afterAll second := by
  rw [afterAll_eq_appliedAll short, afterAll_eq_appliedAll short]
  ext1
  · apply List.ext_getElem?
    intro position
    rw [getElem?_rows_appliedAll, getElem?_rows_appliedAll]
    refine Option.map_congr ?_
    intro row _
    exact (row.isSettled_settle _).eq (row.isSettled_settle _)
      (writesWith_writesTo_eq reordered position)
  · rw [entityCounts_appliedAll, entityCounts_appliedAll, settingsAmong_eq reordered]
  · rw [secure_appliedAll, secure_appliedAll, requestsAmong_eq reordered]
  · rw [source_appliedAll, source_appliedAll]
  · rw [names_appliedAll, names_appliedAll]

/-- Two runs that complete and make the same calls, in orders that agree on interfering
calls, end with the same registry: values, states, flags and all that is beside the rows.
The levels of the log are free in both. -/
theorem completed_runs_agree {start : Registry}
    (short : start.limits.length ≤ entityCountInfoIndex)
    {firstRun secondRun : List (Int × Call Target)} {firstEnd secondEnd : Form}
    (firstCompleted : (Form.sound start).completed? firstRun = some firstEnd)
    (secondCompleted : (Form.sound start).completed? secondRun = some secondEnd)
    (reordered : KeepsOrder (Interfere start.limits) (firstRun.map Prod.snd)
      (secondRun.map Prod.snd)) :
    firstEnd = secondEnd := by
  rw [eq_sound_of_completed? firstCompleted, eq_sound_of_completed? secondCompleted,
    afterAll_eq_of_keepsOrder short reordered]

/-- A limit of the standard registry that is set from each source, and a switch to secure
processing, in one order and in the opposite one. -/
theorem completed_runs_agree_reversed :
    ∃ start run final,
      start.limits = Limit.standardTable ∧
      run =
        [(10, .named (.text "entity_expansion_limit") (.state .configFile) (.text "12")),
          (10, .secureProcessing (.bool true)),
          (30, .indexed (.int 0) (.state .environment) (.int (-5))),
          (10, .item (.item StandardLimit.entityExpansion.limit) (.state .apiProperty)
            (.int 7))] ∧
      KeepsOrder (Interfere start.limits) (run.map Prod.snd) (run.reverse.map Prod.snd) ∧
      (Form.sound start).completed? run = some final ∧
      (Form.sound start).completed? run.reverse = some final := by
  let start : Registry :=
    ⟨Limit.standardTable.map (Row.initial false), .text "", .bool false, .text "source", .absent⟩
  let fileCall : Call Target :=
    .named (.text "entity_expansion_limit") (.state .configFile) (.text "12")
  let secureCall : Call Target := .secureProcessing (.bool true)
  let environmentCall : Call Target := .indexed (.int 0) (.state .environment) (.int (-5))
  let propertyCall : Call Target :=
    .item (.item StandardLimit.entityExpansion.limit) (.state .apiProperty) (.int 7)
  let run : List (Int × Call Target) :=
    [(10, fileCall), (10, secureCall), (30, environmentCall), (10, propertyCall)]
  have table : start.limits = Limit.standardTable := rfl
  have short : start.limits.length ≤ entityCountInfoIndex := by
    rw [table]
    decide
  have fileImpact : fileCall.impact start.limits = .row 0 ⟨.configFile, .int 12⟩ := rfl
  have secureImpact : secureCall.impact start.limits = .everyRow (.bool true) := rfl
  have environmentImpact :
      environmentCall.impact start.limits = .row 0 ⟨.environment, .int 0⟩ := rfl
  have propertyImpact : propertyCall.impact start.limits = .row 0 ⟨.apiProperty, .int 7⟩ := rfl
  have independent : [fileCall, secureCall, environmentCall, propertyCall].Pairwise
      fun earlier later => ¬ Interfere start.limits earlier later := by
    simp [Interfere, fileImpact, secureImpact, environmentImpact, propertyImpact,
      Impact.writeAt?, Impact.entityCounts?, Impact.secure?]
  have reordered :
      KeepsOrder (Interfere start.limits) (run.map Prod.snd) (run.reverse.map Prod.snd) :=
    keepsOrder_reverse independent
  obtain ⟨final, forwards⟩ : ∃ final, (Form.sound start).completed? run = some final := ⟨_, rfl⟩
  obtain ⟨other, backwards⟩ : ∃ other, (Form.sound start).completed? run.reverse = some other :=
    ⟨_, rfl⟩
  have same : final = other :=
    completed_runs_agree short forwards backwards reordered
  rw [← same] at backwards
  exact ⟨start, run, final, table, rfl, reordered, forwards, backwards⟩

end Registry

end ProtectionLimits
