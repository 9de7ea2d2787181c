import ProtectionLimits.Proofs.Registry.Loading

/-!
Contract: what a registry can hold, whatever callers pass.

Owns the contents of a registry (`Holds`): an admitted integer in every row and a text
for the report of entity counts. Integers are admitted by a predicate, so the same
induction says that all values are integers, that none is below zero, and that none is
beyond the range of numerals. A view of such a registry shows lists of the size of the
table, of integers, of names of states and of truth values (`View.IsSound`).

Callers and sources may pass anything. What reaches a row has passed a check, or is a
value of the table; the integers that a caller passes for an item are the only ones that
are taken as they are.
-/

set_option autoImplicit false

namespace ProtectionLimits

def Value.IsIntegerIn (admitted : Int → Prop) (value : Value) : Prop :=
  ∃ integer, value = .int integer ∧ admitted integer

/-- Whether both values of a limit are integers that are admitted. -/
def Limit.IsAdmitted (admitted : Int → Prop) (limit : Limit) : Prop :=
  ∀ secure, (limit.initialValue secure).IsIntegerIn admitted

namespace Registry

def Call.passed? : Call Target → Option Value
  | secureProcessing _ => none
  | named _ _ setting => some setting
  | item _ _ value => some value
  | indexed _ _ setting => some setting

/-- Whether what an impact brings along can be held. -/
def Impact.IsAdmitted (admitted : Int → Prop) : Impact → Prop
  | row _ write => write.value.IsIntegerIn admitted
  | entityCounts setting => ∃ content, setting = .text content
  | _ => True

/-- What a registry holds: admitted integers, and a text beside them. -/
structure Holds (admitted : Int → Prop) (registry : Registry) : Prop where
  rows : ∀ row ∈ registry.rows, row.value.IsIntegerIn admitted
  entityCounts : ∃ content, registry.entityCounts = .text content

/-- Whether a view shows as many admitted integers, names of states and truth values as
it should, and a text beside them. -/
structure View.IsSound (admitted : Int → Prop) (size : Nat) (view : View) : Prop where
  values : ∃ integers : List Int, view.values = integers.map Reply.integer ∧
    integers.length = size ∧ ∀ integer ∈ integers, admitted integer
  states : ∃ states : List State, view.states = states.map State.name ∧ states.length = size
  flags : ∃ flags : List Bool, view.flags = .list (flags.map Reply.truth) ∧ flags.length = size
  entityCounts : ∃ content, view.entityCounts = .text content

section Admitted

variable {admitted : Int → Prop} {registry : Registry}

/-! ### What calls bring along -/

theorem Call.givesOnly {call : Call Target}
    (settings : ∀ setting, call.passed? = some setting → Setting.GivesOnly admitted setting)
    (items : ∀ target provenance integer,
      call = .item target provenance (.int integer) → admitted integer) :
    call.GivesOnly admitted := by
  cases call with
  | secureProcessing secure => trivial
  | named name provenance setting => exact settings setting rfl
  | item target provenance value =>
      rintro integer rfl
      exact items target provenance integer rfl
  | indexed index provenance setting => exact settings setting rfl

/-- What a call decides on can be held if what it gives is admitted. -/
theorem isAdmitted_decision {limits : List Limit} {shown : Exhibit} {call : Call Target}
    {reply : Reply} {impact : Impact} (given : call.GivesOnly admitted)
    (decided : call.decision limits shown = .ok (reply, impact)) :
    impact.IsAdmitted admitted := by
  obtain ⟨_, -, rfl⟩ | ⟨_, _, value, rfl, -, isGiven⟩ | ⟨content, rfl⟩ | rfl :=
    decision_cases decided
  · trivial
  · exact ⟨value, rfl, isGiven admitted given⟩
  · exact ⟨content, rfl⟩
  · trivial

/-! ### What registries hold -/

theorem isIntegerIn_offer {row : Row} {value : Value} (holds : row.value.IsIntegerIn admitted)
    (offered : value.IsIntegerIn admitted) (state : State) :
    (row.offer state value).value.IsIntegerIn admitted := by
  rw [Row.offer]
  split
  · exact offered
  · exact holds

theorem holds_applied {impact : Impact}
    (table : ∀ limit ∈ registry.limits, limit.IsAdmitted admitted)
    (holds : registry.Holds admitted) (given : impact.IsAdmitted admitted) :
    (registry.applied impact).Holds admitted := by
  cases impact with
  | everyRow secure =>
      refine ⟨?_, holds.entityCounts⟩
      intro changed member
      obtain ⟨row, rowMember, rfl⟩ := List.mem_map.1 member
      have initial := table row.limit (List.mem_map_of_mem rowMember) secure.isTrue
      exact isIntegerIn_offer (holds.rows row rowMember) initial .secureProcessing
  | row position write =>
      rw [applied, registry_offerAt]
      refine ⟨?_, holds.entityCounts⟩
      intro changed member
      obtain ⟨place, held⟩ := List.mem_iff_getElem?.1 member
      dsimp only at held
      by_cases addressed : position = place
      · rw [addressed, List.getElem?_modify_eq] at held
        obtain ⟨row, rowHeld, rfl⟩ := Option.map_eq_some_iff.1 held
        exact isIntegerIn_offer (holds.rows row (List.mem_of_getElem? rowHeld)) given write.state
      · rw [List.getElem?_modify_ne _ _ addressed] at held
        exact holds.rows changed (List.mem_of_getElem? held)
  | entityCounts setting => exact ⟨holds.rows, given⟩
  | nothing => exact holds

/-- A call, failed or not, leaves a registry that holds nothing else. -/
theorem holds_after {call : Call Target}
    (table : ∀ limit ∈ registry.limits, limit.IsAdmitted admitted)
    (holds : registry.Holds admitted) (given : call.GivesOnly admitted) :
    (registry.after call).Holds admitted := by
  rw [after_eq_of_decision]
  cases decided : call.decision registry.limits registry.exhibit with
  | error fault => exact holds
  | ok decision => exact holds_applied table holds (isAdmitted_decision given decided)

theorem holds_afterAll {calls : List (Call Target)}
    (table : ∀ limit ∈ registry.limits, limit.IsAdmitted admitted)
    (holds : registry.Holds admitted) (given : ∀ call ∈ calls, call.GivesOnly admitted) :
    (registry.afterAll calls).Holds admitted := by
  induction calls generalizing registry with
  | nil => exact holds
  | cons call rest inductionHypothesis =>
      rw [List.forall_mem_cons] at given
      have stillAdmitted : ∀ limit ∈ (registry.after call).limits, limit.IsAdmitted admitted := by
        rw [limits_after]
        exact table
      exact inductionHypothesis stillAdmitted (holds_after table holds given.1) given.2

/-- A registry begins with what its table and its source give. -/
theorem holds_bootstrap {lookup : Lookup} {source : Exhibit} {names secure : Value}
    {limits : List Limit} (table : ∀ limit ∈ limits, limit.IsAdmitted admitted)
    (given : ∀ name found, lookup name = .ok (some found) →
      Setting.GivesOnly admitted found.1)
    (begun : (bootstrap lookup source names secure limits).2 = .ok registry) :
    registry.Holds admitted := by
  refine ⟨?_, ?_⟩
  · intro row member
    obtain ⟨position, inside, rfl⟩ := List.getElem_of_mem member
    obtain ⟨sameLength, loaded⟩ := List.forall₂_iff_get.1 (forall₂_bootstrap begun)
    have inTable : position < limits.length := by
      rw [sameLength]
      exact inside
    obtain ⟨loading, yielded, isLoaded⟩ := loaded position inTable inside
    rw [List.get_eq_getElem] at isLoaded
    rw [isLoaded]
    cases loading with
    | none => exact table _ (List.getElem_mem inTable) secure.isTrue
    | some loading =>
        obtain ⟨setting, answered, parsed⟩ := setting_of_loading yielded
        exact ⟨loading.value, rfl, given _ _ answered _ _ parsed⟩
  · obtain ⟨rows, -, rfl⟩ := map_eq_ok begun
    exact ⟨"", rfl⟩

/-- Values that are admitted integers are made of admitted integers. -/
theorem exists_integers {values : List Value}
    (held : ∀ value ∈ values, value.IsIntegerIn admitted) :
    ∃ integers : List Int, values = integers.map Value.int ∧
      ∀ integer ∈ integers, admitted integer := by
  induction values with
  | nil => exact ⟨[], rfl, nofun⟩
  | cons value rest inductionHypothesis =>
      rw [List.forall_mem_cons] at held
      obtain ⟨⟨integer, rfl, isAdmitted⟩, restHeld⟩ := held
      obtain ⟨integers, rfl, areAdmitted⟩ := inductionHypothesis restHeld
      exact ⟨integer :: integers, rfl, List.forall_mem_cons.2 ⟨isAdmitted, areAdmitted⟩⟩

/-- A view of a registry shows what the registry holds. -/
theorem isSound_view (holds : registry.Holds admitted) :
    registry.view.IsSound admitted registry.limits.length := by
  rw [length_limits]
  constructor
  · have held : ∀ value ∈ registry.rows.map Row.value, value.IsIntegerIn admitted :=
      List.forall_mem_map.2 holds.rows
    obtain ⟨integers, same, areAdmitted⟩ := exists_integers held
    refine ⟨integers, ?_, ?_, areAdmitted⟩
    · have shown : registry.view.values = (registry.rows.map Row.value).map Reply.value := by
        rw [List.map_map]
        rfl
      rw [shown, same, List.map_map]
      rfl
    · rw [← List.length_map Value.int, ← same, List.length_map]
  · refine ⟨registry.rows.map Row.state, ?_, List.length_map _⟩
    rw [List.map_map]
    rfl
  · refine ⟨registry.rows.map Row.isSet, ?_, List.length_map _⟩
    rw [List.map_map]
    rfl
  · obtain ⟨content, isText⟩ := holds.entityCounts
    refine ⟨content, ?_⟩
    rw [view, isText]
    rfl

section Behind

variable {lookup : Lookup} {source : Exhibit} {names secure : Value} {limits : List Limit}

/-- Behind any calls a registry holds nothing but what its table, its source and the calls
give. -/
theorem holds_behind {calls : List (Call Target)}
    (table : ∀ limit ∈ limits, limit.IsAdmitted admitted)
    (yielded : ∀ name found, lookup name = .ok (some found) →
      Setting.GivesOnly admitted found.1)
    (given : ∀ call ∈ calls, call.GivesOnly admitted)
    (begun : (bootstrap lookup source names secure limits).2 = .ok registry) :
    (registry.afterAll calls).Holds admitted := by
  have stillTable : ∀ limit ∈ registry.limits, limit.IsAdmitted admitted := by
    rw [limits_of_bootstrap begun]
    exact table
  exact holds_afterAll stillTable (holds_bootstrap table yielded begun) given

/-- Over a table of integers a registry holds nothing but integers. -/
theorem holds_integers (integral : ∀ limit ∈ limits, limit.IsIntegral)
    (begun : (bootstrap lookup source names secure limits).2 = .ok registry)
    (calls : List (Call Target)) : (registry.afterAll calls).Holds fun _ => True := by
  refine holds_behind ?_ ?_ ?_ begun
  · intro limit member isSecure
    obtain ⟨value, isInteger⟩ := (integral limit member).initialValue isSecure
    exact ⟨value, isInteger, trivial⟩
  · exact fun _ _ _ _ _ _ => trivial
  · exact fun _ _ => Call.givesOnly (fun _ _ _ _ _ => trivial) (fun _ _ _ _ => trivial)

theorem isSound_view_behind {calls : List (Call Target)}
    (begun : (bootstrap lookup source names secure limits).2 = .ok registry)
    (holds : (registry.afterAll calls).Holds admitted) :
    (registry.afterAll calls).view.IsSound admitted limits.length := by
  have sound := isSound_view holds
  rw [limits_afterAll, limits_of_bootstrap begun] at sound
  exact sound

end Behind

end Admitted

section Shown

variable {lookup : Lookup} {source : Exhibit} {names secure : Value} {limits : List Limit}
  {start : Registry}

/-- Over a table of integers a registry shows integers only. -/
theorem isSound_integers (integral : ∀ limit ∈ limits, limit.IsIntegral)
    (begun : (bootstrap lookup source names secure limits).2 = .ok start)
    (calls : List (Int × Call Target)) :
    (start.afterAll (calls.map Prod.snd)).view.IsSound (fun _ => True) limits.length :=
  isSound_view_behind begun (holds_integers integral begun _)

/-- No value is below zero if none of the table is and none that is passed for an item. What a
source or a name gives is counted from zero. -/
theorem isSound_nonneg (table : ∀ limit ∈ limits, limit.IsAdmitted (0 ≤ ·))
    (begun : (bootstrap lookup source names secure limits).2 = .ok start)
    {calls : List (Int × Call Target)}
    (items : ∀ call ∈ calls, ∀ target provenance integer,
      call.2 = .item target provenance (.int integer) → 0 ≤ integer) :
    (start.afterAll (calls.map Prod.snd)).view.IsSound (0 ≤ ·) limits.length := by
  refine isSound_view_behind begun (holds_behind table ?_ ?_ begun)
  · exact fun _ found _ => Setting.givesOnly_nonneg found.1
  · rw [List.forall_mem_map]
    intro call member
    exact Call.givesOnly (fun setting _ => Setting.givesOnly_nonneg setting) (items call member)

/-- No value leaves the range of numerals if moreover none of the table does, none that is passed
and none that the source gives as an integer. -/
theorem isSound_bounded (nonnegative : ∀ limit ∈ limits, limit.IsAdmitted (0 ≤ ·))
    (bounded : ∀ limit ∈ limits, limit.IsAdmitted (· ≤ Setting.greatest))
    (begun : (bootstrap lookup source names secure limits).2 = .ok start)
    {calls : List (Int × Call Target)}
    (items : ∀ call ∈ calls, ∀ target provenance integer,
      call.2 = .item target provenance (.int integer) → 0 ≤ integer)
    (passed : ∀ call ∈ calls, ∀ integer,
      call.2.passed? = some (.int integer) → integer ≤ Setting.greatest)
    (yielded : ∀ name integer provenance,
      lookup name = .ok (some (.int integer, provenance)) → integer ≤ Setting.greatest) :
    (start.afterAll (calls.map Prod.snd)).view.IsSound
      (fun value => 0 ≤ value ∧ value ≤ Setting.greatest) limits.length := by
  refine isSound_view_behind begun (holds_behind ?_ ?_ ?_ begun)
  · intro limit member isSecure
    obtain ⟨value, isInteger, isNonneg⟩ := nonnegative limit member isSecure
    obtain ⟨other, same, isBounded⟩ := bounded limit member isSecure
    rw [isInteger] at same
    cases same
    exact ⟨value, isInteger, isNonneg, isBounded⟩
  · rintro name ⟨setting, provenance⟩ answered
    apply Setting.givesOnly_bounded
    rintro integer rfl
    exact yielded name integer provenance answered
  · rw [List.forall_mem_map]
    intro call member
    apply Call.givesOnly
    · intro setting isPassed
      apply Setting.givesOnly_bounded
      rintro integer rfl
      exact passed call member integer isPassed
    · intro target provenance integer isItem
      refine ⟨items call member target provenance integer isItem, ?_⟩
      apply passed call member integer
      rw [isItem]
      rfl

/-- What was made by a creation began over the table that the creation resolves. -/
theorem begun_of_create (begun : (bootstrap lookup source names secure limits).2 = .ok start)
    {creation : Creation} {level : Int} (made : (create creation level).result = .ok start) :
    creation.table.resolve creation.secure.isTrue = .ok limits ∧
      (bootstrap creation.source.get creation.source.exhibit creation.names creation.secure
        limits).2 = .ok start := by
  obtain ⟨table, resolved, madeBegun⟩ := bootstrap_of_create made
  have sameTable : table = limits := by
    rw [← limits_of_bootstrap madeBegun, limits_of_bootstrap begun]
  rw [← sameTable]
  exact ⟨resolved, madeBegun⟩

end Shown

/-- What a registry shows stays sound, whatever its source answers and whatever is passed
to its calls, failed ones among them: as many integers, names of states and truth values
as the table has limits, and a text beside them. No value is below zero if none of the
table and none that is passed for an item is. If moreover the table, the calls and the
source have no integer beyond the range of numerals, neither has the registry. -/
theorem contents_stay_sound {lookup : Lookup} {source : Exhibit} {names secure : Value}
    {limits : List Limit} {start : Registry}
    (integral : ∀ limit ∈ limits, limit.IsIntegral)
    (begun : (bootstrap lookup source names secure limits).2 = .ok start)
    (calls : List (Int × Call Target)) :
    ∃ final,
      (Form.sound start).afterAll calls = .sound final ∧
      final.view.IsSound (fun _ => True) limits.length ∧
      ((∀ limit ∈ limits, limit.IsAdmitted (0 ≤ ·)) →
        (∀ call ∈ calls, ∀ target provenance integer,
          call.2 = .item target provenance (.int integer) → 0 ≤ integer) →
        final.view.IsSound (0 ≤ ·) limits.length ∧
        ((∀ limit ∈ limits, limit.IsAdmitted (· ≤ Setting.greatest)) →
          (∀ call ∈ calls, ∀ integer,
            call.2.passed? = some (.int integer) → integer ≤ Setting.greatest) →
          (∀ name integer provenance,
            lookup name = .ok (some (.int integer, provenance)) → integer ≤ Setting.greatest) →
          final.view.IsSound (fun value => 0 ≤ value ∧ value ≤ Setting.greatest)
            limits.length)) ∧
      (∀ creation level, (create creation level).result = .ok start →
        creation.table.resolve creation.secure.isTrue = .ok limits ∧
        (bootstrap creation.source.get creation.source.exhibit creation.names creation.secure
          limits).2 = .ok start) := by
  have stillIntegral : ∀ limit ∈ start.limits, limit.IsIntegral := by
    rw [limits_of_bootstrap begun]
    exact integral
  refine ⟨start.afterAll (calls.map Prod.snd), afterAll_sound stillIntegral calls,
    isSound_integers integral begun calls, ?_, fun _ _ made => begun_of_create begun made⟩
  intro nonnegative items
  exact ⟨isSound_nonneg nonnegative begun items,
    fun bounded passed yielded => isSound_bounded nonnegative bounded begun items passed yielded⟩

/-- A source that answers every name with a number below zero, and calls with a truth value
for an index and for a value, with nothing for a state and with a list for the report of
entity counts. -/
theorem contents_stay_sound_ill_typed :
    ∃ start final : Registry,
      (bootstrap (fun _ => .ok (some (.int (-3), .state .environment))) (.text "source") .absent
        (.bool true) Limit.standardTable).2 = .ok start ∧
      (∀ limit ∈ Limit.standardTable, limit.IsIntegral) ∧
      (Form.sound start).afterAll
        [(10, .indexed (.bool true) (.state .apiProperty) (.int 5)),
          (0, .item (.item StandardLimit.maxName.limit) (.state .apiProperty) (.bool true)),
          (20, .named (.text "max_xml_name_limit") (.other .absent) (.int 7)),
          (10, .named (.text "entity_count_info") (.state .default) (.list []))] =
        .sound final ∧
      final.view.IsSound (fun value => 0 ≤ value ∧ value ≤ Setting.greatest) 9 := by
  obtain ⟨start, begun⟩ : ∃ start, (bootstrap (fun _ => .ok (some (.int (-3),
      .state .environment))) (.text "source") .absent (.bool true) Limit.standardTable).2 =
    .ok start := ⟨_, rfl⟩
  have inRange : ∀ limit ∈ Limit.standardTable, ∀ secure,
      (limit.initialValue secure).IsIntegerIn fun value =>
        0 ≤ value ∧ value ≤ Setting.greatest := by
    intro limit member
    obtain ⟨standard, -, rfl⟩ := List.mem_map.1 member
    rintro (_ | _)
    · exact ⟨_, rfl, by cases standard <;> decide⟩
    · exact ⟨_, rfl, by cases standard <;> decide⟩
  have nonnegative : ∀ limit ∈ Limit.standardTable, limit.IsAdmitted (0 ≤ ·) :=
    fun limit member secure => (inRange limit member secure).imp fun _ => .imp_right And.left
  have bounded : ∀ limit ∈ Limit.standardTable, limit.IsAdmitted (· ≤ Setting.greatest) :=
    fun limit member secure => (inRange limit member secure).imp fun _ => .imp_right And.right
  obtain ⟨final, run, -, sound, -⟩ := contents_stay_sound Limit.isIntegral_of_standard begun
    [(10, .indexed (.bool true) (.state .apiProperty) (.int 5)),
      (0, .item (.item StandardLimit.maxName.limit) (.state .apiProperty) (.bool true)),
      (20, .named (.text "max_xml_name_limit") (.other .absent) (.int 7)),
      (10, .named (.text "entity_count_info") (.state .default) (.list []))]
  refine ⟨start, final, begun, Limit.isIntegral_of_standard, run, ?_⟩
  refine (sound nonnegative ?_).2 bounded ?_ ?_
  · simp
  · simp [Call.passed?, Setting.greatest]
  · intro name integer provenance answered
    cases answered
    decide

end Registry

end ProtectionLimits
