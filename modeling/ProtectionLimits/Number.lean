/-!
Contract: binary floating-point numbers of double precision as exact values.

Owns the three kinds of number, the exact value of a finite one as an integer
count of the smallest positive step, the comparison with integers, and the
number nearest to a decimal. A finite number is a significand times a power of
two times that step, so no rounding happens in any comparison. Does not own the
written form; `Number.Shortest` does.
-/

set_option autoImplicit false

namespace ProtectionLimits

/-- A number of double precision. The value of a finite one is
`significand * 2 ^ shift` steps of `2 ^ -1074`, with the sign kept apart so that
negative zero is a number of its own. -/
inductive Number where
  | finite (negative : Bool) (significand shift : Nat)
  | infinite (negative : Bool)
  | nan
deriving DecidableEq, Repr, Inhabited

namespace Number

def powerOfTwo (exponent : Nat) : Nat := Nat.pow 2 exponent

def powerOfTen (exponent : Nat) : Nat := Nat.pow 10 exponent

/-- How many of the smallest steps make one. -/
def stepsPerUnit : Nat := powerOfTwo 1074

def magnitude (significand shift : Nat) : Nat := significand * powerOfTwo shift

def steps? : Number → Option Int
  | finite negative significand shift =>
      some (if negative then -(magnitude significand shift : Int) else magnitude significand shift)
  | infinite _ => none
  | nan => none

/-- An integer has the value of a finite number when both have the same count of steps. -/
def equalsInteger (number : Number) (integer : Int) : Bool :=
  number.steps? == some (integer * stepsPerUnit)

def equalsFraction (number : Number) (fraction : Rat) : Bool :=
  number.steps?.any fun steps => (steps : Rat) == fraction * (stepsPerUnit : Rat)

/-- The integer part of a finite number: what stands behind the point is dropped. -/
def truncated? : Number → Option Int
  | finite negative significand shift =>
      let whole : Nat := magnitude significand shift / stepsPerUnit
      some (if negative then -(whole : Int) else whole)
  | infinite _ => none
  | nan => none

/-- Equality of values: the two zeros are equal, and nothing equals a number that is not one. -/
def equals : Number → Number → Bool
  | nan, _ => false
  | _, nan => false
  | infinite left, infinite right => left == right
  | left, right => left.steps? == right.steps? && left.steps?.isSome

/-- A number counts as true unless its value is zero. -/
def isNonzero (number : Number) : Bool := !number.equalsInteger 0

/-- Whether the value is at most the integer; never so for a number that is not one. -/
def atMost (number : Number) (integer : Int) : Bool :=
  match number with
  | nan => false
  | infinite negative => negative
  | finite .. => (number.steps?.getD 0) ≤ integer * stepsPerUnit

/-- Where a number stands on the line: which side of all finite numbers, and its
steps if it is one of them. -/
def position? : Number → Option (Int × Int)
  | nan => none
  | infinite negative => some (if negative then -1 else 1, 0)
  | other => other.steps?.map fun steps => (0, steps)

/-! ### The number nearest to a decimal -/

/-- The quotient rounded to the nearest integer, a tie to the even neighbour. -/
def roundedQuotient (numerator denominator : Nat) : Nat :=
  let quotient := numerator / denominator
  let rest := 2 * (numerator % denominator)
  if rest < denominator then quotient
  else if denominator < rest then quotient + 1
  else if quotient % 2 = 0 then quotient else quotient + 1

def maximalShift : Nat := 2045

/-- The number nearest to `numerator / denominator` steps, a tie to the even
significand, and infinite beyond the largest finite number. -/
def ofSteps (negative : Bool) (numerator denominator : Nat) : Number :=
  let shift := (numerator / denominator).log2 - 52
  let significand := roundedQuotient numerator (denominator * powerOfTwo shift)
  let carried := significand == powerOfTwo 53
  let settledShift := if carried then shift + 1 else shift
  if maximalShift < settledShift then infinite negative
  else finite negative (if carried then powerOfTwo 52 else significand) settledShift

def ofDecimal (negative : Bool) (digits : Nat) (scale : Int) : Number :=
  match scale with
  | .ofNat power => ofSteps negative (digits * powerOfTen power * stepsPerUnit) 1
  | .negSucc power => ofSteps negative (digits * stepsPerUnit) (powerOfTen (power + 1))

end Number

end ProtectionLimits
