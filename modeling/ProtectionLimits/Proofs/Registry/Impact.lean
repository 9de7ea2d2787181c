import ProtectionLimits.Proofs.Registry.Operation
import ProtectionLimits.Proofs.Row

/-!
Contract: what a call comes to, read off the table alone.

Owns the impact of a call: an offer to every row, an offer to one row, another
setting for the report of entity counts, or nothing. The impact depends on the
table and on nothing that a call can change, so the writes of a whole history are
known before its first call is made.

Does not own that a call does what its impact says. It does so unless the table is so
long that the index of the report of entity counts addresses one of its limits;
`after_eq_applied` says this.
-/

set_option autoImplicit false

namespace ProtectionLimits.Registry

/-- What a call comes to. -/
inductive Impact where
  | everyRow (secure : Value)
  | row (position : Nat) (write : Write)
  | entityCounts (setting : Value)
  | nothing

namespace Impact

/-- A setting for the row at a position. It comes to nothing unless it comes with a
state and is accepted. -/
def ofSetting (position : Nat) (provenance : Provenance) (setting : Value) : Impact :=
  match provenance, Setting.value? setting with
  | .state state, some value => row position ⟨state, .int value⟩
  | _, _ => nothing

/-- A setting for the report of entity counts, which only needs a state. -/
def ofEntityCounts (provenance : Provenance) (setting : Value) : Impact :=
  match provenance with
  | .state _ => entityCounts (entityCountsSetting setting)
  | .other _ => nothing

/-- A value for the row at a position, taken as it is if it is an integer. -/
def ofValue (position : Nat) (provenance : Provenance) (value : Value) : Impact :=
  match provenance, value with
  | .state state, .int value => row position ⟨state, .int value⟩
  | _, _ => nothing

/-- What an impact offers to the row at a position of a table. -/
def writeAt? (limits : List Limit) (position : Nat) : Impact → Option Write
  | everyRow secure =>
      limits[position]?.map fun limit => ⟨.secureProcessing, limit.initialValue secure.isTrue⟩
  | row place write => if place = position then some write else none
  | _ => none

/-- The setting for the report of entity counts that an impact leaves. -/
def entityCounts? : Impact → Option Value
  | entityCounts setting => some setting
  | _ => none

/-- How an impact asks for secure processing, if it does. -/
def secure? : Impact → Option Value
  | everyRow secure => some secure
  | _ => none

end Impact

def positionIndexed? (limits : List Limit) : Value → Option Nat
  | .int index => if 0 ≤ index ∧ index < limits.length then some index.toNat else none
  | _ => none

def Call.impact (limits : List Limit) : Call Target → Impact
  | secureProcessing secure => .everyRow secure
  | named name provenance setting =>
      match positionNamed? limits name with
      | some position => .ofSetting position provenance setting
      | none =>
          if name.equals (.text entityCountInfo) then .ofEntityCounts provenance setting
          else .nothing
  | item target provenance value =>
      match positionOfTarget? limits target with
      | some position => .ofValue position provenance value
      | none => .nothing
  | indexed index provenance setting =>
      if addressesEntityCounts index then .ofEntityCounts provenance setting
      else
        match positionIndexed? limits index with
        | some position => .ofSetting position provenance setting
        | none => .nothing

def applied (registry : Registry) : Impact → Registry
  | .everyRow secure => (registry.setSecureProcessing secure).registry
  | .row position write => (registry.offerAt position write.state write.value).registry
  | .entityCounts setting => { registry with entityCounts := setting }
  | .nothing => registry

/-! ### Indexes of a table -/

theorem positionIndexed?_eq_some_iff {limits : List Limit} {index : Value} {position : Nat} :
    positionIndexed? limits index = some position ↔
      index = .int position ∧ position < limits.length := by
  constructor
  · intro addressed
    cases index with
    | int index =>
        rw [positionIndexed?] at addressed
        split at addressed
        case isTrue bounds =>
            cases addressed
            refine ⟨?_, by omega⟩
            rw [Int.toNat_of_nonneg bounds.1]
        case isFalse => cases addressed
    | _ => cases addressed
  · rintro ⟨rfl, inside⟩
    have bounds : 0 ≤ (position : Int) ∧ (position : Int) < limits.length := by omega
    rw [positionIndexed?, if_pos bounds, Int.toNat_natCast]

theorem ne_of_positionIndexed?_eq_none {limits : List Limit} {index : Value}
    (outside : positionIndexed? limits index = none) :
    ∀ position < limits.length, index ≠ .int position := by
  intro position inside same
  have addressed := positionIndexed?_eq_some_iff.2 ⟨same, inside⟩
  rw [outside] at addressed
  cases addressed

end ProtectionLimits.Registry
