import ProtectionLimits.Proofs.Registry.Bootstrap

/-!
Contract: what rows are loaded with, apart from the rows.

Owns the loading of a limit: the value, the state and the name that a source yields for
it, or nothing. A source is asked on behalf of limits and knows nothing of what their
rows hold, so the loadings of a table are the same whether its registry begins with
values in secure processing or with values by default. `bootstrap_eq` says that a
registry begins with the loadings of its table, entered into the initial rows.

Owns as well where a loading comes from: it is a setting that the source has, checked for
its limit. Nothing is assumed of the source. It may fail, and it may answer with something
that is no state; the beginning then fails too. What a layered source has comes with a
state above that of secure processing.
-/

set_option autoImplicit false

namespace ProtectionLimits

/-- What a row is loaded with. -/
structure Loading where
  value : Int
  state : State
  name : Value

/-- A row with its loading entered, if it has one. The gate has no part in it. -/
def Row.loadedWith (row : Row) : Option Loading → Row
  | some loading => { row with value := .int loading.value, state := loading.state }
  | none => row

namespace Registry

/-- What a source yields for a limit. -/
def loading? (lookup : Lookup) (names : Value) (limit : Limit) :
    Except Fault (Option Loading) := do
  match ← findSetting lookup names limit.systemProperty with
  | none => pure none
  | some (found, name) =>
      let value ← Setting.parse limit.systemProperty found.1
      match found.2 with
      | .state state => pure (some ⟨value, state, name⟩)
      | .other other => .error (.attributeMissing other.kind "literal")

/-- What a source yields for the limits of a table, up to the first fault. -/
def loadings (lookup : Lookup) (names : Value) :
    List Limit → Except Fault (List (Option Loading))
  | [] => .ok []
  | limit :: rest =>
      match loading? lookup names limit with
      | .error fault => .error fault
      | .ok loading => (loadings lookup names rest).map (loading :: ·)

section Beginning

variable {lookup : Lookup} {names : Value}

/-- A row is loaded with what the source yields for its limit. -/
theorem bootstrapRow_eq (row : Row) :
    (bootstrapRow lookup names row).map Prod.fst =
      (loading? lookup names row.limit).map row.loadedWith := by
  simp only [bootstrapRow, loading?, load, bind, Except.bind, pure, Except.pure]
  cases findSetting lookup names row.limit.systemProperty with
  | error fault => rfl
  | ok setting =>
      cases setting with
      | none => rfl
      | some setting =>
          obtain ⟨⟨found, provenance⟩, name⟩ := setting
          dsimp only
          cases Setting.parse row.limit.systemProperty found with
          | error fault => rfl
          | ok value => cases provenance <;> rfl

theorem bootstrapRows_eq (rows : List Row) :
    (bootstrapRows lookup names rows).2 =
      (loadings lookup names (rows.map Row.limit)).map (List.zipWith Row.loadedWith rows) := by
  induction rows with
  | nil => rfl
  | cons row rest inductionHypothesis =>
      have first := @bootstrapRow_eq lookup names row
      rw [List.map_cons, loadings]
      cases yielded : loading? lookup names row.limit with
      | error fault =>
          rw [yielded] at first
          cases begun : bootstrapRow lookup names row with
          | error other =>
              rw [begun] at first
              rw [bootstrapRows_cons_of_error begun]
              cases first
              rfl
          | ok made =>
              rw [begun] at first
              cases first
      | ok loading =>
          rw [yielded] at first
          obtain ⟨⟨loaded, events⟩, begun, agreement⟩ := map_eq_ok first
          cases agreement
          rw [bootstrapRows_cons_of_ok begun, inductionHypothesis]
          cases loadings lookup names (rest.map Row.limit) with
          | error fault => rfl
          | ok more => rfl

/-- A registry begins with the loadings of its table, entered into the initial rows. -/
theorem bootstrap_eq (source : Exhibit) (secure : Value) (limits : List Limit) :
    (bootstrap lookup source names secure limits).2 =
      (loadings lookup names limits).map fun loadings =>
        { rows := List.zipWith Row.loadedWith (limits.map (Row.initial secure.isTrue)) loadings
          entityCounts := .text ""
          secure := secure
          source := source
          names := names } := by
  have table : (limits.map (Row.initial secure.isTrue)).map Row.limit = limits := by
    rw [List.map_map]
    exact List.map_id limits
  simp only [bootstrap, bootstrapRows_eq, table]
  cases loadings lookup names limits with
  | error fault => rfl
  | ok loadings => rfl

/-! ### Where loadings come from -/

/-- A setting stands under the name that it is found under. -/
theorem lookup_of_findSetting {property name : Value} {found : Found}
    (finding : findSetting lookup names property = .ok (some (found, name))) :
    lookup name = .ok (some found) := by
  simp only [findSetting, bind, Except.bind, pure, Except.pure] at finding
  cases present : lookup property with
  | error fault =>
      rw [present] at finding
      cases finding
  | ok answer =>
      rw [present] at finding
      cases answer with
      | some setting =>
          cases finding
          exact present
      | none =>
          dsimp only at finding
          split at finding
          · cases finding
          · split at finding
            · cases finding
            · split at finding
              · cases finding
              · rename_i answered
                obtain ⟨setting, rfl, same⟩ := Option.map_eq_some_iff.1 (Except.ok.inj finding)
                cases same
                exact answered

/-- A loading is a setting that the source has, with its state and its accepted value. -/
theorem setting_of_loading {limit : Limit} {loading : Loading}
    (yielded : loading? lookup names limit = .ok (some loading)) :
    ∃ setting, lookup loading.name = .ok (some (setting, .state loading.state)) ∧
      Setting.parse limit.systemProperty setting = .ok loading.value := by
  simp only [loading?, bind, Except.bind, pure, Except.pure] at yielded
  cases finding : findSetting lookup names limit.systemProperty with
  | error fault =>
      rw [finding] at yielded
      cases yielded
  | ok answer =>
      rw [finding] at yielded
      cases answer with
      | none => cases yielded
      | some setting =>
          obtain ⟨⟨setting, provenance⟩, name⟩ := setting
          have held := lookup_of_findSetting finding
          dsimp only at yielded
          cases parsed : Setting.parse limit.systemProperty setting with
          | error fault =>
              rw [parsed] at yielded
              cases yielded
          | ok value =>
              rw [parsed] at yielded
              cases provenance with
              | other other => cases yielded
              | state state =>
                  cases yielded
                  exact ⟨setting, held, parsed⟩

/-- The loadings of a table are those of its limits, one for each. -/
theorem forall₂_loadings {limits : List Limit} {yielded : List (Option Loading)}
    (succeeded : loadings lookup names limits = .ok yielded) :
    List.Forall₂ (fun limit loading => loading? lookup names limit = .ok loading)
      limits yielded := by
  induction limits generalizing yielded with
  | nil =>
      cases succeeded
      exact .nil
  | cons limit rest inductionHypothesis =>
      rw [loadings] at succeeded
      cases first : loading? lookup names limit with
      | error fault =>
          rw [first] at succeeded
          cases succeeded
      | ok loading =>
          rw [first] at succeeded
          obtain ⟨more, restSucceeded, rfl⟩ := map_eq_ok succeeded
          exact .cons first (inductionHypothesis restSucceeded)

/-- Each row of a registry that has begun is the initial row of a limit, loaded with what
the source yields for the limit. -/
theorem forall₂_bootstrap {source : Exhibit} {secure : Value} {limits : List Limit}
    {registry : Registry}
    (begun : (bootstrap lookup source names secure limits).2 = .ok registry) :
    List.Forall₂
      (fun limit row => ∃ loading, loading? lookup names limit = .ok loading ∧
        row = (Row.initial secure.isTrue limit).loadedWith loading)
      limits registry.rows := by
  rw [bootstrap_eq] at begun
  obtain ⟨yielded, succeeded, rfl⟩ := map_eq_ok begun
  have loadings := forall₂_loadings succeeded
  clear succeeded begun
  induction loadings with
  | nil => exact .nil
  | cons first rest inductionHypothesis =>
      exact .cons ⟨_, first, rfl⟩ inductionHypothesis

end Beginning

/-- What a layered source has comes with a state above that of secure processing. -/
theorem not_le_of_layered {environment : Environment} {settings : List (Value × Value)}
    {name setting : Value} {state : State}
    (answered : (Source.layered environment settings).get name =
      .ok (some (setting, .state state))) : ¬ state ≤ .secureProcessing := by
  simp only [Source.get, bind, Except.bind, pure, Except.pure] at answered
  split at answered
  · cases answered
  · split at answered
    · cases answered
      decide
    · split at answered
      · cases answered
      · split at answered
        · cases answered
          decide
        · cases answered

end Registry

end ProtectionLimits
