import ProtectionLimits.Decimal

/-!
Contract: where the current value of a limit comes from.

Owns the five states of a limit, their order of precedence, and their labels. A
setting may replace the value of a limit when its state is the same as the
state of that value or comes after it.
-/

set_option autoImplicit false

namespace ProtectionLimits

/-- The states of a limit, in order of precedence. -/
inductive State where
  | default
  | secureProcessing
  | configFile
  | environment
  | apiProperty
deriving DecidableEq, Repr, Inhabited

namespace State

/-- The states from the lowest precedence to the highest. -/
def all : List State := [default, secureProcessing, configFile, environment, apiProperty]

/-- The place of a state in the order of precedence. -/
def rank : State → Nat
  | default => 0
  | secureProcessing => 1
  | configFile => 2
  | environment => 3
  | apiProperty => 4

def name : State → String
  | default => "DEFAULT"
  | secureProcessing => "SECURE_PROCESSING"
  | configFile => "CONFIG_FILE"
  | environment => "ENVIRONMENT"
  | apiProperty => "API_PROPERTY"

def label : State → String
  | default => "default"
  | secureProcessing => "secure processing"
  | configFile => "configuration file"
  | environment => "environment variable"
  | apiProperty => "API property"

def literal (state : State) : String :=
  "<State." ++ state.name ++ ": " ++ Decimal.natural state.rank ++ ">"

instance : LE State := ⟨fun left right => left.rank ≤ right.rank⟩

instance : LT State := ⟨fun left right => left.rank < right.rank⟩

instance (left right : State) : Decidable (left ≤ right) :=
  inferInstanceAs (Decidable (left.rank ≤ right.rank))

instance (left right : State) : Decidable (left < right) :=
  inferInstanceAs (Decidable (left.rank < right.rank))

def ofName? (name : String) : Option State :=
  all.find? fun state => state.name == name

/-! ### The order of precedence -/

theorem le_iff_rank {left right : State} : left ≤ right ↔ left.rank ≤ right.rank := Iff.rfl

theorem lt_iff_rank {left right : State} : left < right ↔ left.rank < right.rank := Iff.rfl

theorem rank_injective {left right : State} (agreement : left.rank = right.rank) :
    left = right := by
  cases left <;> cases right <;> simp_all [rank]

/-- Nothing takes precedence over the API. -/
theorem le_apiProperty (state : State) : state ≤ apiProperty := by
  cases state <;> decide

theorem not_le_iff_lt {left right : State} : ¬ left ≤ right ↔ right < left := by
  rw [le_iff_rank, lt_iff_rank]
  omega

end State

end ProtectionLimits
