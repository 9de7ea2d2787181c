import ProtectionLimits.Fault

/-!
Contract: positions in sequences.

Owns which integers can be positions, the item at a position counted from either end,
and the names that sequences have in faults about positions.
-/

set_option autoImplicit false

namespace ProtectionLimits.Position

/-- The item at a position of a sequence; positions below zero count from the
end. -/
def fromEitherEnd {Item : Type} (items : List Item) (position : Int) : Option Item :=
  if 0 ≤ position then items[position.toNat]?
  else
    let place := items.length + position
    if 0 ≤ place then items[place.toNat]? else none

/-- Whether an integer can be a position: positions have 64 bits. -/
def isPosition (position : Int) : Bool :=
  -9223372036854775808 ≤ position && position ≤ 9223372036854775807

/-- The item at a position of a sequence, counted from either end, or why there is
none. -/
def itemAt {Item : Type} (sequence : String) (items : List Item) (position : Int) :
    Except Fault Item :=
  if isPosition position then
    match fromEitherEnd items position with
    | some item => .ok item
    | none => .error (.positionOutside sequence)
  else .error .positionTooLarge

/-- The name of a sequence in faults about positions. Bytes go without a name. -/
def sequenceName : Kind → String
  | .text => "string"
  | .bytes => ""
  | other => other.name

end ProtectionLimits.Position
