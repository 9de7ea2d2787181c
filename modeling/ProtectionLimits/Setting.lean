import ProtectionLimits.Fault
import ProtectionLimits.Numeral

/-!
Contract: from a setting to the value of a limit.

Owns which settings are accepted, the range of numerals, and the value that a
setting gives. An integer is accepted as it is and a text if it is the numeral
of an integer of 32 bits; below zero both give zero. A truth value is not an
integer here.
-/

set_option autoImplicit false

namespace ProtectionLimits.Setting

/-- Longer runs of digits are out of range whatever their value. -/
def maximalDigits : Nat := 4300

def least : Int := -2147483648

def greatest : Int := 2147483647

def isInRange (numeral : Numeral) : Bool :=
  numeral.digits.length ≤ maximalDigits && least ≤ numeral.value && numeral.value ≤ greatest

/-- A negative value stands for zero: the limit is not applied. -/
def clamp (value : Int) : Int := max 0 value

def parseText (property : Value) (setting : String) : Except Fault Int :=
  match Numeral.read? setting with
  | none => .error (.settingNotInteger setting property)
  | some numeral =>
      if isInRange numeral then .ok (clamp numeral.value)
      else .error (.settingOutOfRange setting property)

def parse (property : Value) : Value → Except Fault Int
  | .int value => .ok (clamp value)
  | .text setting => parseText property setting
  | other => .error (.settingKind other.kind)

theorem clamp_nonneg (value : Int) : 0 ≤ clamp value := Int.le_max_left 0 value

theorem clamp_of_nonneg {value : Int} (nonnegative : 0 ≤ value) : clamp value = value :=
  Int.max_eq_right nonnegative

/-- Whatever a setting gives is at least zero. -/
theorem parse_nonneg {property setting : Value} {value : Int}
    (parsed : parse property setting = .ok value) : 0 ≤ value := by
  unfold parse at parsed
  split at parsed
  · cases parsed
    exact clamp_nonneg _
  · unfold parseText at parsed
    split at parsed
    · cases parsed
    · split at parsed
      · cases parsed
        exact clamp_nonneg _
      · cases parsed
  · cases parsed

end ProtectionLimits.Setting
