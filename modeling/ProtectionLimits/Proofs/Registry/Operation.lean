import ProtectionLimits.Proofs.Registry.Position
import ProtectionLimits.Proofs.Setting
import ProtectionLimits.Registry.Call

/-!
Contract: what each way of setting a limit does with each kind of argument.

Owns one law for each outcome of the three ways of setting a limit that needs more
than its definition: which fault a check has, and what is offered to which row when all
checks have passed. All later theory of registries rests on these laws and on the law of
an offer to a row, and looks at none of the definitions again.
-/

set_option autoImplicit false

namespace ProtectionLimits.Registry

/-! ### Offers to a row -/

/-- An offer to a row leaves everything else as it was. -/
theorem registry_offerAt (registry : Registry) (position : Nat) (state : State) (value : Value) :
    (registry.offerAt position state value).registry =
      { registry with
        rows := registry.rows.modify position fun row => row.offer state value } := by
  rw [offerAt]
  split
  case h_1 row found =>
      have : Inhabited Row := ⟨row⟩
      rw [List.modify_eq_set, found, Option.getD_some]
  case h_2 absent =>
      rw [List.modify_eq_self (List.getElem?_eq_none_iff.1 absent)]

theorem getElem?_rows_offerAt (registry : Registry) (position place : Nat) (state : State)
    (value : Value) :
    (registry.offerAt position state value).registry.rows[place]? =
      if position = place then registry.rows[place]?.map fun row => row.offer state value
      else registry.rows[place]? := by
  rw [registry_offerAt]
  by_cases same : position = place
  · rw [if_pos same, same, List.getElem?_modify_eq]
    rfl
  · rw [if_neg same, List.getElem?_modify_ne _ _ same]

/-! ### Indexes -/

theorem addressesEntityCounts_int (index : Int) :
    addressesEntityCounts (.int index) = (index == (entityCountInfoIndex : Int)) :=
  Value.equals_int index entityCountInfoIndex

theorem addressesEntityCounts_of_lt {position : Nat} (small : position < entityCountInfoIndex) :
    addressesEntityCounts (.int position) = false := by
  rw [addressesEntityCounts_int, beq_eq_false_iff_ne]
  omega

theorem positionAt_of_lt {registry : Registry} {position : Nat}
    (inside : position < registry.rows.length) :
    registry.positionAt (.int position) = .ok position := by
  have bounds : 0 ≤ (position : Int) ∧ (position : Int) < registry.rows.length := by omega
  rw [positionAt, if_pos bounds, Int.toNat_natCast]

theorem positionAt_of_outside {registry : Registry} {index : Value}
    (outside : ∀ position < registry.rows.length, index ≠ .int position) :
    registry.positionAt index = .error (.limitIndex index) := by
  cases index with
  | int index =>
      have notBounds : ¬ (0 ≤ index ∧ index < registry.rows.length) := by
        rintro ⟨nonnegative, below⟩
        apply outside index.toNat (by omega)
        rw [Int.toNat_of_nonneg nonnegative]
      rw [positionAt, if_neg notBounds]
  | _ => rfl

theorem setByIndex_of_entityCounts {registry : Registry} {index : Value}
    (addressed : addressesEntityCounts index = true) (state : State) (setting : Value) :
    registry.setByIndex index (.state state) setting =
      .ok ⟨{ registry with entityCounts := entityCountsSetting setting }, []⟩ := by
  simp only [setByIndex, requireState, addressed, if_true]
  rfl

theorem setByIndex_of_outside {registry : Registry} {index : Value}
    (notAddressed : addressesEntityCounts index = false)
    (outside : ∀ position < registry.rows.length, index ≠ .int position)
    (state : State) (setting : Value) :
    registry.setByIndex index (.state state) setting = .error (.limitIndex index) := by
  simp only [setByIndex, requireState, notAddressed, positionAt_of_outside outside]
  rfl

theorem setByIndex_of_inside {registry : Registry} {position : Nat} {limit : Limit}
    (notAddressed : addressesEntityCounts (.int position) = false)
    (held : registry.limits[position]? = some limit) (state : State) (setting : Value) :
    registry.setByIndex (.int position) (.state state) setting =
      (Setting.parse limit.apiProperty setting).map fun value =>
        registry.offerAt position state (.int value) := by
  have inside : position < registry.rows.length := by
    rw [← length_limits]
    exact (List.getElem?_eq_some_iff.1 held).1
  simp only [setByIndex, requireState, bind, Except.bind, pure, Except.pure, notAddressed,
    positionAt_of_lt inside, held, Option.elim_some, Bool.false_eq_true, if_false]
  cases Setting.parse limit.apiProperty setting <;> rfl

/-! ### Names -/

/-- The index of an unknown name is the only one below zero. -/
theorem indexOf_lt_zero_iff {registry : Registry} {name : Value} :
    registry.indexOf name < 0 ↔ registry.indexOf name = -1 := by
  cases found : positionNamed? registry.limits name with
  | some position =>
      rw [indexOf_of_named found]
      omega
  | none =>
      rw [indexOf_of_unnamed found]
      split <;> simp

theorem setByName_of_unknown {registry : Registry} {name : Value}
    (unknown : registry.indexOf name = -1) (provenance : Provenance) (setting : Value) :
    registry.setByName name provenance setting = .ok (false, ⟨registry, []⟩) := by
  rw [setByName, if_pos (indexOf_lt_zero_iff.2 unknown)]

theorem setByName_of_known {registry : Registry} {name : Value}
    (known : registry.indexOf name ≠ -1) (provenance : Provenance) (setting : Value) :
    registry.setByName name provenance setting =
      (registry.setByIndex (.int (registry.indexOf name)) provenance setting).map
        fun change => (true, change) := by
  rw [setByName, if_neg (fun negative => known (indexOf_lt_zero_iff.1 negative))]

/-! ### Items -/

theorem setValue_of_unmanaged {registry : Registry} {target : Target}
    (unmanaged : positionOfTarget? registry.limits target = none) (state : State) (value : Int) :
    registry.setValue target (.state state) (.int value) =
      .error (.limitUnmanaged target registry.exhibit) := by
  simp only [setValue, requireState, requireInteger, positionOf_eq, unmanaged]
  rfl

theorem setValue_of_managed {registry : Registry} {target : Target} {position : Nat}
    (managed : positionOfTarget? registry.limits target = some position) (state : State)
    (value : Int) :
    registry.setValue target (.state state) (.int value) =
      .ok (registry.offerAt position state (.int value)) := by
  simp only [setValue, requireState, requireInteger, positionOf_eq, managed]
  rfl

end ProtectionLimits.Registry
