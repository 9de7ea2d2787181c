import ProtectionLimits.Decimal
import ProtectionLimits.Number

/-!
Contract: the written form of a number.

Owns the fewest digits that read back as the same number, the nearest such
decimal among those of one length, and the layout of the digits. Of two equally
near decimals the even one is taken. Does not own reading; `Number.Reading`
does.
-/

set_option autoImplicit false

namespace ProtectionLimits.Number

/-- A decimal `digits * 10 ^ scale`. -/
structure Scientific where
  digits : Nat
  scale : Int
deriving DecidableEq, Repr

/-- The decimals that read back as one number, as an interval of quarter steps
around its magnitude; the ends belong to it when the significand is even. -/
structure Interval where
  low : Nat
  high : Nat
  closed : Bool

/-- Half a gap to either side. Below a power of two the gap is half as wide. -/
def Interval.around (significand shift : Nat) : Interval where
  low :=
    if significand == powerOfTwo 52 && 0 < shift then (4 * significand - 1) * powerOfTwo shift
    else (4 * significand - 2) * powerOfTwo shift
  high := (4 * significand + 2) * powerOfTwo shift
  closed := significand % 2 == 0

/-- Whether `numerator / denominator` quarter steps lie in the interval. -/
def Interval.contains (interval : Interval) (numerator denominator : Nat) : Bool :=
  if interval.closed then
    interval.low * denominator ≤ numerator && numerator ≤ interval.high * denominator
  else
    interval.low * denominator < numerator && numerator < interval.high * denominator

/-- Of the two neighbours of the magnitude on the grid of `10 ^ scale`, the one
that reads back; the nearer one if both do. -/
def neighbour? (significand shift : Nat) (scale : Int) : Option Scientific :=
  let interval := Interval.around significand shift
  let grid := match scale with
    | .ofNat power => (powerOfTen power * stepsPerUnit, 1)
    | .negSucc power => (stepsPerUnit, powerOfTen (power + 1))
  let exact := magnitude significand shift * grid.2
  let lower := exact / grid.1
  let reads (digits : Nat) : Bool := interval.contains (4 * digits * grid.1) grid.2
  let nearest := roundedQuotient exact grid.1
  if reads nearest then some ⟨nearest, scale⟩
  else if reads lower then some ⟨lower, scale⟩
  else if reads (lower + 1) then some ⟨lower + 1, scale⟩
  else none

/-- The position of the leading digit of a magnitude: the greatest power of ten
that is not above it. -/
def leadingPower (significand shift : Nat) : Int :=
  let exact := magnitude significand shift
  if stepsPerUnit ≤ exact then
    ((Decimal.digits (exact / stepsPerUnit)).length : Int) - 1
  else
    let places := (Decimal.digits (stepsPerUnit / exact)).length
    if stepsPerUnit ≤ exact * powerOfTen (places - 1) then 1 - (places : Int) else -(places : Int)

/-- The first grid with a hit, tried from one digit upwards. -/
def shortestFrom (significand shift : Nat) (leading : Int) (length : Nat) : Nat → Scientific
  | 0 => ⟨magnitude significand shift, 0⟩
  | fuel + 1 =>
      match neighbour? significand shift (leading - length) with
      | some found => found
      | none => shortestFrom significand shift leading (length + 1) fuel

/-- The fewest digits that read back; seventeen always suffice. -/
def shortest (significand shift : Nat) : Scientific :=
  shortestFrom significand shift (leadingPower significand shift) 0 17

/-! ### Layout -/

/-- Where positional notation ends and how an exponent is written. -/
structure Layout where
  leastPositional : Int
  firstScientific : Int
  exponentDigits : Nat

/-- Numbers below a ten-thousandth or from ten to the sixteenth on are written
with an exponent of at least two digits; all others are written positionally
and keep a digit behind the point. -/
def Layout.standard : Layout := ⟨-4, 16, 2⟩

/-- The exponent with its sign, filled up with zeros. -/
def Layout.exponent (layout : Layout) (power : Int) : List Char :=
  let digits := Decimal.digits power.natAbs
  (if power < 0 then '-' else '+') ::
    (List.replicate (layout.exponentDigits - digits.length) '0' ++ digits)

/-- Digits without the zeros at their end, at least one of them kept. -/
def withoutTrailingZeros (digits : List Char) : List Char :=
  match (digits.reverse.dropWhile (· == '0')).reverse with
  | [] => ['0']
  | kept => kept

/-- The digits `d₁d₂…` with the leading one at the given power of ten. -/
def Layout.write (layout : Layout) (digits : List Char) (power : Int) : List Char :=
  if layout.leastPositional ≤ power && power < layout.firstScientific then
    if power < 0 then
      '0' :: '.' :: (List.replicate (power.natAbs - 1) '0' ++ digits)
    else
      let whole := power.natAbs + 1
      let integral := digits.take whole ++ List.replicate (whole - digits.length) '0'
      let fraction := digits.drop whole
      integral ++ '.' :: (if fraction.isEmpty then ['0'] else fraction)
  else
    let mantissa := match digits with
      | first :: second :: rest => first :: '.' :: second :: rest
      | short => short
    mantissa ++ 'e' :: layout.exponent power

def writtenMagnitude (significand shift : Nat) : List Char :=
  let decimal := shortest significand shift
  let all := Decimal.digits decimal.digits
  Layout.standard.write (withoutTrailingZeros all) (decimal.scale + all.length - 1)

def written : Number → String
  | finite negative significand shift =>
      let magnitude :=
        if significand = 0 then ['0', '.', '0'] else writtenMagnitude significand shift
      String.ofList (if negative then '-' :: magnitude else magnitude)
  | infinite negative => if negative then "-inf" else "inf"
  | nan => "nan"

end ProtectionLimits.Number
