import ProtectionLimits.Proofs.Registry.Flags
import ProtectionLimits.Proofs.Registry.Loading

/-!
Contract: that secure processing can as well be requested behind the beginning.

Owns the comparison of a registry that begins in secure processing with one over the same
table and source that begins without and is switched. What a source has is loaded into
both, with states above that of secure processing, so the switch changes none of it; all
other rows are brought to the values that the first registry began with. From there on the
two differ in flags only, since the switch sets them and a beginning does not.
-/

set_option autoImplicit false

namespace ProtectionLimits

/-- A row behind a request for secure processing. -/
def Row.switched (row : Row) : Row :=
  row.offer .secureProcessing (row.limit.initialValue true)

/-- A row that is switched agrees with the row that began in secure processing, if what it is
loaded with comes with a higher state. -/
theorem Row.agrees_switched (limit : Limit) {loading : Option Loading}
    (above : ∀ loaded, loading = some loaded → ¬ loaded.state ≤ .secureProcessing) :
    ((initial true limit).loadedWith loading).AgreesBesideFlag
      ((initial false limit).loadedWith loading).switched := by
  cases loading with
  | none => exact ⟨rfl, rfl, rfl, nofun⟩
  | some loaded =>
      rw [switched, offer_of_not_le (above loaded rfl)]
      exact ⟨rfl, rfl, rfl, id⟩

namespace Registry

/-- What a caller passes to make a registry, in secure processing or not. -/
def Creation.securely (creation : Creation) (secure : Bool) : Creation :=
  { creation with secure := .bool secure }

section Beginning

variable {lookup : Lookup} {names : Value} {limits : List Limit}

theorem forall₂_switched {yielded : List (Option Loading)}
    (loadings : List.Forall₂ (fun limit loading => loading? lookup names limit = .ok loading)
      limits yielded)
    (above : ∀ name setting state, lookup name = .ok (some (setting, .state state)) →
      ¬ state ≤ .secureProcessing) :
    List.Forall₂ Row.AgreesBesideFlag
      (List.zipWith Row.loadedWith (limits.map (Row.initial true)) yielded)
      ((List.zipWith Row.loadedWith (limits.map (Row.initial false)) yielded).map
        Row.switched) := by
  induction loadings with
  | nil => exact .nil
  | @cons limit loading limits yielded first rest inductionHypothesis =>
      have higher : ∀ loaded, loading = some loaded → ¬ loaded.state ≤ .secureProcessing := by
        rintro loaded rfl
        obtain ⟨setting, answered, -⟩ := setting_of_loading first
        exact above loaded.name setting loaded.state answered
      exact .cons (Row.agrees_switched limit higher) inductionHypothesis

/-- A registry that is switched agrees with one that began in secure processing. -/
theorem agrees_of_switched {source : Exhibit} {first second : Registry}
    (above : ∀ name setting state, lookup name = .ok (some (setting, .state state)) →
      ¬ state ≤ .secureProcessing)
    (firstBegun : (bootstrap lookup source names (.bool true) limits).2 = .ok first)
    (secondBegun : (bootstrap lookup source names (.bool false) limits).2 = .ok second) :
    first.AgreesBesideFlags (second.after (.secureProcessing (.bool true))) := by
  rw [bootstrap_eq] at firstBegun secondBegun
  obtain ⟨yielded, succeeded, rfl⟩ := map_eq_ok firstBegun
  rw [succeeded] at secondBegun
  cases secondBegun
  exact ⟨forall₂_switched (forall₂_loadings succeeded) above, rfl, rfl⟩

/-- What is asked of a source is asked in any case. -/
theorem bootstrap_error_iff (source : Exhibit) (fault : Fault) :
    (bootstrap lookup source names (.bool true) limits).2 = .error fault ↔
      (bootstrap lookup source names (.bool false) limits).2 = .error fault := by
  rw [bootstrap_eq, bootstrap_eq]
  cases loadings lookup names limits with
  | error other => rfl
  | ok yielded => exact iff_of_false nofun nofun

end Beginning

/-! ### Registries that callers ask for -/

/-- Either what is passed is refused in any case, or a registry is begun. -/
theorem result_create_securely {creation : Creation} {limits : List Limit}
    (table : ∀ secure, creation.table.resolve secure = .ok limits) (level : Int) :
    (∃ fault, ∀ secure, (create (creation.securely secure) level).result = .error fault) ∨
      ∀ secure, (create (creation.securely secure) level).result =
        (bootstrap creation.source.get creation.source.exhibit creation.names (.bool secure)
          limits).2 := by
  by_cases valid : IsLevelRequest creation.level
  · cases keywords : creation.keywords with
    | nil =>
        refine .inr fun secure => ?_
        exact @result_create (creation.securely secure) limits keywords valid (table _) level
    | cons keyword rest =>
        obtain ⟨fault, refused⟩ : ∃ fault, creation.refused? = some fault := by
          rw [Creation.refused?, keywords]
          exact ⟨_, rfl⟩
        refine .inl ⟨fault, fun secure => ?_⟩
        apply result_withLevel valid
        intro inner
        have stillRefused : (creation.securely secure).refused? = some fault := refused
        rw [build, stillRefused]
  · obtain ⟨fault, refused⟩ := exists_fault_of_withLevel valid level
    exact .inl ⟨fault, fun secure => refused _⟩

/-- Whether secure processing can as well be requested late, as a caller under a translator sees it:
a registry begins in secure processing exactly if it begins without, and fails with the same
fault otherwise. If it begins without and is then switched, it agrees beside its flags with the
registry that began in secure processing, and it does so behind any further calls: every call
comes to the same result, and every question but that for a flag has the same answer. -/
structure Creation.SwitchesLate (creation : Creation) (translate : Translator) (level : Int) :
    Prop where
  refused : ∀ fault, (create (creation.securely true) level).result = .error fault ↔
    (create (creation.securely false) level).result = .error fault
  agrees : ∀ first second,
    (create (creation.securely true) level).result = .ok first →
    (create (creation.securely false) level).result = .ok second →
    ∀ (switchLevel : Int) (calls : List (Int × Call Target)), ∃ left right,
      (Form.sound first).afterAll calls = .sound left ∧
      (Form.sound second).afterAll
        ((switchLevel, .secureProcessing (.bool true)) :: calls) = .sound right ∧
      left.AgreesBesideFlags right ∧
      (∀ callLevel call,
        reported translate ((Form.sound left).perform callLevel call).result =
          reported translate ((Form.sound right).perform callLevel call).result) ∧
      (∀ query : Query Target, ¬ query.AsksFlag →
        reported translate ((Form.sound left).answer query) =
          reported translate ((Form.sound right).answer query))

section Switching

variable {creation : Creation} {environment : Environment} {settings : List (Value × Value)}
  {limits : List Limit} (layered : creation.source = .layered environment settings)
  (table : ∀ secure, creation.table.resolve secure = .ok limits)
  (integral : ∀ limit ∈ limits, limit.IsIntegral)

include layered table integral

/-- In every language whose message of a limit that is not managed shows literal forms only. -/
theorem switchesLate_of_shows {translate : Translator}
    (shows : ∀ template, translate Wording.limitUnmanaged.template = .ok template →
      Text.Template.showsLiterals template = true) (level : Int) :
    creation.SwitchesLate translate level := by
  rcases result_create_securely table level with ⟨fault, refused⟩ | begun
  · refine ⟨?_, ?_⟩
    · intro other
      rw [refused, refused]
    · intro first second firstMade
      rw [refused] at firstMade
      cases firstMade
  · refine ⟨?_, ?_⟩
    · intro fault
      rw [begun, begun]
      exact bootstrap_error_iff _ fault
    · intro first second firstMade secondMade switchLevel calls
      rw [begun] at firstMade secondMade
      have above : ∀ name setting state,
          creation.source.get name = .ok (some (setting, .state state)) →
            ¬ state ≤ .secureProcessing := by
        rw [layered]
        exact fun _ _ _ answered => not_le_of_layered answered
      have agrees := (agrees_of_switched above firstMade secondMade).afterAll (calls.map Prod.snd)
      have integralFirst : ∀ limit ∈ first.limits, limit.IsIntegral := by
        rw [limits_of_bootstrap firstMade]
        exact integral
      have integralSecond : ∀ limit ∈ second.limits, limit.IsIntegral := by
        rw [limits_of_bootstrap secondMade]
        exact integral
      refine ⟨_, _, afterAll_sound integralFirst calls, afterAll_sound integralSecond _, agrees,
        ?_, ?_⟩
      · intro callLevel call
        have integralBehind : ∀ limit ∈ ((second.after (.secureProcessing (.bool true))).afterAll
            (calls.map Prod.snd)).limits, limit.IsIntegral := by
          rw [limits_afterAll, limits_after]
          exact integralSecond
        exact (agrees.perform integralBehind callLevel call).1.reported_eq shows
      · intro query noFlag
        exact (agrees.answer noFlag).reported_eq shows

/-- Over a table of integers and a layered source secure processing can as well be requested late.
So it is while no translation is active, and in every language whose message of a limit that is not
managed shows literal forms only. -/
theorem late_switch_agrees (level : Int) :
    creation.SwitchesLate .identity level ∧
    ∀ translate : Translator,
      (∀ template, translate Wording.limitUnmanaged.template = .ok template →
        Text.Template.showsLiterals template = true) →
      creation.SwitchesLate translate level := by
  have shows : ∀ template,
      Translator.identity Wording.limitUnmanaged.template = .ok template →
        Text.Template.showsLiterals template = true := by
    rintro _ ⟨⟩
    decide
  exact ⟨switchesLate_of_shows layered table integral shows level,
    fun _ shows => switchesLate_of_shows layered table integral shows level⟩

end Switching

/-- The standard table over an environment and a configuration file with one setting each. A
limit that is not managed is refused with one report by both registries. -/
theorem late_switch_agrees_configured :
    ∃ (creation : Creation) (first second left right : Registry),
      creation.source = .layered (.process [("XMLLIMITS_MAX_OCCUR_LIMIT", "12")])
        [(.text "XMLLIMITS_MAX_ELEMENT_DEPTH", .int 7)] ∧
      (∀ secure, creation.table.resolve secure = .ok Limit.standardTable) ∧
      (∀ limit ∈ Limit.standardTable, limit.IsIntegral) ∧
      (create (creation.securely true) 30).result = .ok first ∧
      (create (creation.securely false) 30).result = .ok second ∧
      (Form.sound first).afterAll
        [(10, .named (.text "max_element_depth") (.state .secureProcessing) (.int 9))] =
          .sound left ∧
      (Form.sound second).afterAll
        [(10, .secureProcessing (.bool true)),
          (10, .named (.text "max_element_depth") (.state .secureProcessing) (.int 9))] =
          .sound right ∧
      left.AgreesBesideFlags right ∧
      reported .identity ((Form.sound left).perform 10
          (.item (.stranger StandardLimit.maxName.limit) (.state .apiProperty) (.int 1))).result =
        reported .identity ((Form.sound right).perform 10
          (.item (.stranger StandardLimit.maxName.limit) (.state .apiProperty)
            (.int 1))).result := by
  let creation : Creation :=
    ⟨.absent, .standard, .layered (.process [("XMLLIMITS_MAX_OCCUR_LIMIT", "12")])
      [(.text "XMLLIMITS_MAX_ELEMENT_DEPTH", .int 7)], .absent, .absent, []⟩
  have table : ∀ secure, creation.table.resolve secure = .ok Limit.standardTable := fun _ => rfl
  obtain ⟨first, firstMade⟩ :
      ∃ first, (create (creation.securely true) 30).result = .ok first := ⟨_, rfl⟩
  obtain ⟨second, secondMade⟩ :
      ∃ second, (create (creation.securely false) 30).result = .ok second := ⟨_, rfl⟩
  obtain ⟨left, right, runLeft, runRight, agrees, sameResult, -⟩ :=
    (@late_switch_agrees creation _ _ _ rfl table Limit.isIntegral_of_standard 30).1.agrees first
      second firstMade secondMade 10
      [(10, .named (.text "max_element_depth") (.state .secureProcessing) (.int 9))]
  exact ⟨creation, first, second, left, right, rfl, table,
    Limit.isIntegral_of_standard, firstMade, secondMade, runLeft, runRight, agrees, sameResult 10 _⟩

end Registry

end ProtectionLimits
