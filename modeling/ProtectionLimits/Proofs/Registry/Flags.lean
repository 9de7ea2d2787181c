import Mathlib.Data.List.Forall2
import ProtectionLimits.Proofs.Fault.Literal
import ProtectionLimits.Proofs.Registry.Run

/-!
Contract: registries that agree beside their flags.

Owns the agreement of two registries in their limits, values and states and in what
stands beside the rows, where the flags of the first are up only where those of the second
are (`AgreesBesideFlags`). The gate looks at states and at no flag. So registries that
agree keep agreeing through all calls, every call comes to the same result and writes the
same entries, and every question but that for a flag has the same answer.

Results are the same up to the registry in the failure of an item that is not managed. A
report shows it in literal form, and that form has no flags.
-/

set_option autoImplicit false

namespace ProtectionLimits

/-- Whether two rows agree beside their flags, where the second is set if the first is. -/
structure Row.AgreesBesideFlag (left right : Row) : Prop where
  limit : left.limit = right.limit
  value : left.value = right.value
  state : left.state = right.state
  isSet : left.isSet = true → right.isSet = true

namespace Row.AgreesBesideFlag

variable {left right : Row}

/-- The gate takes no notice of a flag. -/
theorem offer (agrees : left.AgreesBesideFlag right) (state : State) (value : Value) :
    (left.offer state value).AgreesBesideFlag (right.offer state value) := by
  rw [Row.offer, Row.offer, agrees.state]
  split
  · exact ⟨agrees.limit, rfl, rfl, fun _ => rfl⟩
  · exact agrees

theorem verdict_eq (agrees : left.AgreesBesideFlag right) (state : State) (value : Value) :
    left.verdict state value = right.verdict state value := by
  rw [verdict, verdict, agrees.limit, agrees.state]

theorem rowText_eq (agrees : left.AgreesBesideFlag right) :
    Registry.rowText left = Registry.rowText right := by
  rw [Registry.rowText, Registry.rowText, agrees.value]

end Row.AgreesBesideFlag

/-- Whether two results are related values or failures that are alike. -/
inductive AreAlike {Left Right : Type} (values : Left → Right → Prop) :
    Except Fault Left → Except Fault Right → Prop where
  | ok {left : Left} {right : Right} (related : values left right) :
      AreAlike values (.ok left) (.ok right)
  | error {left right : Fault} (alike : left.IsAlike right) :
      AreAlike values (.error left) (.error right)

/-- What a caller sees of a result: what is given back, or the report of the failure. -/
def reported {Result : Type} (translate : Translator) (result : Except Fault Result) :
    Except Fault.Report Result :=
  result.mapError fun fault => fault.report translate

namespace AreAlike

variable {Left Right LeftMade RightMade Result : Type}

theorem map {values : Left → Right → Prop} {made : LeftMade → RightMade → Prop}
    {left : Except Fault Left} {right : Except Fault Right} (alike : AreAlike values left right)
    {convertLeft : Left → LeftMade} {convertRight : Right → RightMade}
    (converted : ∀ first second, values first second →
      made (convertLeft first) (convertRight second)) :
    AreAlike made (left.map convertLeft) (right.map convertRight) := by
  cases alike with
  | ok related => exact .ok (converted _ _ related)
  | error alike => exact .error alike

theorem bind {values : Left → Right → Prop} {made : LeftMade → RightMade → Prop}
    {left : Except Fault Left} {right : Except Fault Right} (alike : AreAlike values left right)
    {continueLeft : Left → Except Fault LeftMade} {continueRight : Right → Except Fault RightMade}
    (continued : ∀ first second, values first second →
      AreAlike made (continueLeft first) (continueRight second)) :
    AreAlike made (left.bind continueLeft) (right.bind continueRight) := by
  cases alike with
  | ok related => exact continued _ _ related
  | error alike => exact .error alike

theorem refl (result : Except Fault Result) : AreAlike Eq result result := by
  cases result with
  | ok value => exact .ok rfl
  | error fault => exact .error (.same fault)

/-- Results that are alike are one for a caller. -/
theorem reported_eq {left right : Except Fault Result} (alike : AreAlike Eq left right)
    {translate : Translator}
    (shows : ∀ template, translate Wording.limitUnmanaged.template = .ok template →
      Text.Template.showsLiterals template = true) :
    reported translate left = reported translate right := by
  cases alike with
  | ok same => rw [same]
  | error alike =>
      exact congrArg Except.error (alike.report_eq shows)

end AreAlike

namespace Registry

/-- Whether two registries agree beside their flags, where the flags of the first are up only
where those of the second are. -/
structure AgreesBesideFlags (left right : Registry) : Prop where
  rows : List.Forall₂ Row.AgreesBesideFlag left.rows right.rows
  entityCounts : left.entityCounts = right.entityCounts
  secure : left.secure = right.secure

def Query.AsksFlag : Query Target → Prop
  | item .isSet _ => True
  | indexed .isSet _ => True
  | _ => False

/-! ### Lists that are related item by item -/

section Lists

variable {Left Right Made : Type} {related : Left → Right → Prop} {lefts : List Left}
  {rights : List Right}

theorem rel_getElem? (items : List.Forall₂ related lefts rights) (position : Nat) :
    Option.Rel related lefts[position]? rights[position]? := by
  induction items generalizing position with
  | nil => exact .none
  | cons first rest inductionHypothesis =>
      cases position with
      | zero => exact .some first
      | succ position => exact inductionHypothesis position

theorem map_eq_of_forall₂ {convertLeft : Left → Made} {convertRight : Right → Made}
    (items : List.Forall₂ related lefts rights)
    (same : ∀ left right, related left right → convertLeft left = convertRight right) :
    lefts.map convertLeft = rights.map convertRight := by
  induction items with
  | nil => rfl
  | cons first rest inductionHypothesis =>
      rw [List.map_cons, List.map_cons, same _ _ first, inductionHypothesis]

theorem forall₂_modify {changeLeft : Left → Left} {changeRight : Right → Right}
    (items : List.Forall₂ related lefts rights)
    (kept : ∀ left right, related left right → related (changeLeft left) (changeRight right))
    (position : Nat) :
    List.Forall₂ related (lefts.modify position changeLeft)
      (rights.modify position changeRight) := by
  induction items generalizing position with
  | nil =>
      rw [List.modify_nil, List.modify_nil]
      exact .nil
  | cons first rest inductionHypothesis =>
      cases position with
      | zero => exact .cons (kept _ _ first) rest
      | succ position => exact .cons first (inductionHypothesis position)

end Lists

/-- A registry is shown by what was passed for secure processing, if it is shown as text. -/
theorem written_exhibit (registry : Registry) :
    registry.exhibit.written = registryWritten registry.secure := by
  rw [exhibit, Exhibit.keeper, Exhibit.keeping, Exhibit.written]

namespace AgreesBesideFlags

variable {left right : Registry}

theorem limits (agrees : left.AgreesBesideFlags right) : left.limits = right.limits :=
  map_eq_of_forall₂ agrees.rows fun _ _ row => row.limit

theorem written (agrees : left.AgreesBesideFlags right) :
    left.exhibit.written = right.exhibit.written := by
  rw [written_exhibit, written_exhibit, agrees.secure]

/-! ### Questions -/

/-- What is held at a position is related, and so are the failures where nothing is. -/
theorem rowHeld (agrees : left.AgreesBesideFlags right) {first second : Fault}
    (alike : first.IsAlike second) (position : Nat) :
    AreAlike Row.AgreesBesideFlag
      (match left.rows[position]? with
        | some row => .ok row
        | none => .error first)
      (match right.rows[position]? with
        | some row => .ok row
        | none => .error second) := by
  have row := rel_getElem? agrees.rows position
  generalize left.rows[position]? = heldLeft, right.rows[position]? = heldRight at row ⊢
  cases row with
  | none => exact .error alike
  | some related => exact .ok related

theorem rowAt (agrees : left.AgreesBesideFlags right) (index : Value) :
    AreAlike Row.AgreesBesideFlag (left.rowAt index) (right.rowAt index) := by
  have samePosition : left.positionAt index = right.positionAt index := by
    cases index with
    | int index => rw [positionAt, positionAt, agrees.rows.length_eq]
    | _ => rfl
  rw [Registry.rowAt, Registry.rowAt, samePosition]
  cases right.positionAt index with
  | error fault => exact .error (.same fault)
  | ok position => exact agrees.rowHeld (.same (.limitIndex index)) position

theorem rowOf (agrees : left.AgreesBesideFlags right) (target : Target) :
    AreAlike Row.AgreesBesideFlag (left.rowOf target) (right.rowOf target) := by
  rw [Registry.rowOf, Registry.rowOf, positionOf_eq, positionOf_eq, agrees.limits]
  cases positionOfTarget? right.limits target with
  | none => exact .error (.unmanaged target agrees.written)
  | some position => exact agrees.rowHeld (.unmanaged target agrees.written) position

theorem textAt (agrees : left.AgreesBesideFlags right) (index : Value) :
    AreAlike Eq (left.textAt index) (right.textAt index) := by
  rw [Registry.textAt, Registry.textAt]
  split
  · rw [agrees.entityCounts]
    exact .refl _
  · refine (agrees.rowAt index).bind ?_
    intro first second row
    rw [row.rowText_eq]
    exact .refl _

theorem indexOf (agrees : left.AgreesBesideFlags right) (name : Value) :
    left.indexOf name = right.indexOf name := by
  rw [indexOf_eq, indexOf_eq, agrees.limits]

theorem textNamed (agrees : left.AgreesBesideFlags right) (name : Value) :
    AreAlike Eq (left.textNamed name) (right.textNamed name) := by
  simp only [Registry.textNamed, agrees.indexOf]
  split
  · exact .refl _
  · exact agrees.textAt _

theorem byKey (agrees : left.AgreesBesideFlags right) : left.byKey = right.byKey := by
  have samePairs : (left.rows.map fun row => (row.limit, row.value)) =
      right.rows.map fun row => (row.limit, row.value) :=
    map_eq_of_forall₂ agrees.rows fun _ _ row => by rw [row.limit, row.value]
  have asPairs (registry : Registry) : registry.byKey =
      ((registry.rows.map fun row => (row.limit, row.value)).foldlM
        (fun entries pair => enterKeyed entries pair.1 pair.2) []).map
          fun entries => entries.map fun entry => (entry.1.key, entry.2) := by
    rw [Registry.byKey, List.foldlM_map]
  rw [asPairs, asPairs, samePairs]

/-- Every question but that for a flag has the same answer. -/
theorem answer (agrees : left.AgreesBesideFlags right) {query : Query Target}
    (noFlag : ¬ query.AsksFlag) : AreAlike Eq (left.answer query) (right.answer query) := by
  cases query with
  | item aspect target =>
      refine (agrees.rowOf target).bind ?_
      intro first second row
      cases aspect with
      | value => exact .ok (by rw [row.value])
      | text =>
          simp only [row.rowText_eq]
          exact .refl _
      | state => exact .ok (by rw [row.state])
      | label => exact .ok (by rw [row.state])
      | isSet => exact absurd trivial noFlag
  | indexed aspect index =>
      cases aspect with
      | value => exact (agrees.rowAt index).map fun _ _ row => by rw [row.value]
      | text => exact (agrees.textAt index).map fun _ _ same => by rw [same]
      | isSet => exact absurd trivial noFlag
  | indexOf name => exact .ok (by rw [agrees.indexOf])
  | textNamed name => exact (agrees.textNamed name).map fun _ _ same => by rw [same]
  | reportsEntityCounts => exact .ok (by rw [reportsEntityCounts, reportsEntityCounts,
      agrees.entityCounts])
  | items =>
      refine .ok (congrArg Reply.list (map_eq_of_forall₂ agrees.rows ?_))
      intro first second row
      rw [row.limit, row.value, row.state]
  | byKey =>
      simp only [Registry.answer, agrees.byKey]
      exact .refl _
  | size => exact .ok (by rw [agrees.rows.length_eq])
  | literal =>
      simp only [Registry.answer, Registry.literal, agrees.secure]
      exact .refl _

/-! ### Calls -/

/-- The table decides, and a failure that shows the registry shows it alike. -/
theorem decision (agrees : left.AgreesBesideFlags right) (call : Call Target) :
    AreAlike Eq (call.decision left.limits left.exhibit)
      (call.decision right.limits right.exhibit) := by
  rw [agrees.limits]
  cases call with
  | item target provenance value =>
      have decided : AreAlike Eq
          (decideItem right.limits left.exhibit target provenance value)
          (decideItem right.limits right.exhibit target provenance value) := by
        unfold decideItem
        split
        · exact .refl _
        · split
          · exact .refl _
          · exact .error (.unmanaged target agrees.written)
        · exact .refl _
      exact decided.map fun _ _ same => by rw [same]
  | _ => exact .refl _

theorem applied (agrees : left.AgreesBesideFlags right) (impact : Impact) :
    (left.applied impact).AgreesBesideFlags (right.applied impact) := by
  cases impact with
  | everyRow secure =>
      refine ⟨?_, agrees.entityCounts, rfl⟩
      refine List.forall₂_map_left_iff.2 (List.forall₂_map_right_iff.2 (agrees.rows.imp ?_))
      intro first second row
      rw [row.limit]
      exact row.offer .secureProcessing _
  | row position write =>
      rw [Registry.applied, Registry.applied, registry_offerAt, registry_offerAt]
      refine ⟨?_, agrees.entityCounts, agrees.secure⟩
      exact forall₂_modify agrees.rows (fun _ _ row => row.offer write.state write.value) position
  | entityCounts setting => exact ⟨agrees.rows, rfl, agrees.secure⟩
  | nothing => exact agrees

theorem eventsOf (agrees : left.AgreesBesideFlags right) (impact : Impact) :
    left.eventsOf impact = right.eventsOf impact := by
  cases impact with
  | everyRow secure =>
      refine map_eq_of_forall₂ agrees.rows ?_
      intro first second row
      rw [row.limit]
      exact row.verdict_eq .secureProcessing _
  | row position write =>
      rw [Registry.eventsOf, Registry.eventsOf, offerAt, offerAt]
      have row := rel_getElem? agrees.rows position
      generalize left.rows[position]? = heldLeft, right.rows[position]? = heldRight at row ⊢
      cases row with
      | none => rfl
      | some related => exact congrArg (fun event => [event]) (related.verdict_eq _ _)
  | _ => rfl

theorem after (agrees : left.AgreesBesideFlags right) (call : Call Target) :
    (left.after call).AgreesBesideFlags (right.after call) := by
  rw [after_eq_of_decision, after_eq_of_decision]
  have decision := agrees.decision call
  generalize call.decision left.limits left.exhibit = first,
    call.decision right.limits right.exhibit = second at decision ⊢
  cases decision with
  | error alike => exact agrees
  | ok same =>
      rw [same]
      exact agrees.applied _

/-- What agrees beside its flags does so behind any calls. -/
theorem afterAll (agrees : left.AgreesBesideFlags right) (calls : List (Call Target)) :
    (left.afterAll calls).AgreesBesideFlags (right.afterAll calls) := by
  induction calls generalizing left right with
  | nil => exact agrees
  | cons call rest inductionHypothesis => exact inductionHypothesis (agrees.after call)

/-- A call comes to the same result and writes the same entries. -/
theorem perform (agrees : left.AgreesBesideFlags right)
    (integral : ∀ limit ∈ right.limits, limit.IsIntegral) (level : Int) (call : Call Target) :
    AreAlike Eq ((Form.sound left).perform level call).result
        ((Form.sound right).perform level call).result ∧
      ((Form.sound left).perform level call).entries =
        ((Form.sound right).perform level call).entries := by
  have decision := agrees.decision call
  generalize decidedLeft : call.decision left.limits left.exhibit = first,
    decidedRight : call.decision right.limits right.exhibit = second at decision
  cases decision with
  | error alike =>
      rw [form_perform_of_fault decidedLeft, form_perform_of_fault decidedRight]
      exact ⟨.error alike, rfl⟩
  | @ok decided other same =>
      obtain ⟨reply, impact⟩ := decided
      subst same
      have integralLeft : ∀ limit ∈ left.limits, limit.IsIntegral := by
        rw [agrees.limits]
        exact integral
      rw [form_perform_of_impact (fun _ _ => integralLeft) decidedLeft,
        form_perform_of_impact (fun _ _ => integral) decidedRight, agrees.eventsOf]
      exact ⟨.ok rfl, rfl⟩

end AgreesBesideFlags

end Registry

end ProtectionLimits
