import ProtectionLimits.Number.Shortest

/-!
Contract: the digits of a number up to a place, or a count of them.

Owns rounding the exact value of a number to so many places behind the point, and
to so many digits from the leading one on. A tie goes to the even digit, and a
carry moves the leading digit.
-/

set_option autoImplicit false

namespace ProtectionLimits.Number

/-- The digits of a magnitude up to a place behind the point, as one number. -/
def atPlaces (significand shift places : Nat) : Nat :=
  roundedQuotient (magnitude significand shift * powerOfTen places) stepsPerUnit

/-- The magnitude counted in units of a power of ten, rounded. -/
def inUnits (significand shift : Nat) (power : Int) : Nat :=
  match power with
  | .ofNat above => roundedQuotient (magnitude significand shift) (powerOfTen above * stepsPerUnit)
  | .negSucc below =>
      roundedQuotient (magnitude significand shift * powerOfTen (below + 1)) stepsPerUnit

/-- So many digits of a magnitude from the leading one on, and the power of ten of
the leading one. A zero has its leading digit before the point. -/
def leadingDigits (significand shift count : Nat) : List Char × Int :=
  if significand = 0 then (List.replicate count '0', 0)
  else
    let leading := leadingPower significand shift
    let digits := Decimal.digits (inUnits significand shift (leading - count + 1))
    if count < digits.length then (digits.take count, leading + 1) else (digits, leading)

/-- The fewest digits that read back, and the power of ten of the leading one. -/
def fewestDigits (significand shift : Nat) : List Char × Int :=
  if significand = 0 then (['0'], 0)
  else
    let decimal := shortest significand shift
    let all := Decimal.digits decimal.digits
    (withoutTrailingZeros all, decimal.scale + all.length - 1)

end ProtectionLimits.Number
