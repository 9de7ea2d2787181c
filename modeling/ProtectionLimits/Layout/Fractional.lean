import ProtectionLimits.Layout.Numeral
import ProtectionLimits.Number.Rounded

/-!
Contract: numbers set in a layout.

Owns the styles of numbers: with a fixed count of places, with an exponent, the
general style that takes the shorter one, percentages, and the style without a
name, which shows the fewest digits that read back. The names of numbers that are
not finite are set like numerals without digits.
-/

set_option autoImplicit false

namespace ProtectionLimits.Layout

/-- What numbers take for granted. -/
def fractionalStandard : Standard := ⟨"float", .right, none⟩

def isFractional (style : Char) : Bool :=
  ['e', 'E', 'f', 'F', 'g', 'G', 'n', '%'].contains style

def standardPrecision : Nat := 6

def largestPrecision : Nat := 2147483647

/-- What stands behind the digits before the point. The point itself is left out
with nothing behind it, unless the layout keeps it. -/
def behindPoint (alternate : Bool) (fraction : List Char) : List Char :=
  if fraction.isEmpty && !alternate then [] else '.' :: fraction

def fixedParts (alternate : Bool) (digits places : Nat) : List Char × List Char :=
  let all := Decimal.digits digits
  let filled := List.replicate (places + 1 - all.length) '0' ++ all
  let whole := filled.length - places
  (filled.take whole, behindPoint alternate (filled.drop whole))

/-- Digits with the point behind the first one, and an exponent. -/
def scientificParts (alternate : Bool) (digits : List Char) (power : Int) :
    List Char × List Char :=
  (digits.take 1,
    behindPoint alternate (digits.drop 1) ++ 'e' :: Number.Layout.standard.exponent power)

/-- Digits with the point where the power of the first one puts it. `least` places
are kept behind the point. -/
def positionalParts (alternate : Bool) (least : Nat) (digits : List Char) (power : Int) :
    List Char × List Char :=
  if power < 0 then (['0'], '.' :: (List.replicate (power.natAbs - 1) '0' ++ digits))
  else
    let whole := power.natAbs + 1
    let fraction := digits.drop whole
    let zeros := List.replicate (least - fraction.length) '0'
    (digits.take whole ++ List.replicate (whole - digits.length) '0',
      behindPoint alternate (fraction ++ zeros))

/-- The general style: positional as long as the leading digit stands neither far
behind the point nor beyond the last digit. Zeros at the end are left out unless
the layout keeps them. With `least` places kept, one digit fewer stands before
the point. -/
def generalParts (alternate : Bool) (least count : Nat) (digits : List Char) (power : Int) :
    List Char × List Char :=
  let kept := if alternate then digits else Number.withoutTrailingZeros digits
  if power < -4 || (count : Int) ≤ power + least then scientificParts alternate kept power
  else positionalParts alternate least kept power

/-- The digits before the point of a magnitude and what stands behind them. A zero
is shown by one digit in the general style. -/
def magnitudeParts (layout : Layout) (significand shift : Nat) : List Char × List Char :=
  let precision := layout.precision.getD standardPrecision
  let general (least count : Nat) :=
    let (digits, power) := Number.leadingDigits significand shift count
    generalParts layout.alternate least count digits power
  match layout.style with
  | some style =>
      if ['f', 'F', '%'].contains style then
        fixedParts layout.alternate (Number.atPlaces significand shift precision) precision
      else if ['e', 'E'].contains style then
        let (digits, power) := Number.leadingDigits significand shift (precision + 1)
        scientificParts layout.alternate digits power
      else general 0 (max 1 precision)
  | none => match layout.precision with
    | some count => general 1 (max 1 count)
    | none =>
        let (digits, power) := Number.fewestDigits significand shift
        generalParts layout.alternate 1 17 digits power

def showsZero (parts : List Char × List Char) : Bool :=
  (parts.1 ++ parts.2.takeWhile (· != 'e')).all fun character =>
    character == '0' || character == '.'

def fractionalNumeral (layout : Layout) (number : Number) : Numeral :=
  let scaled := if layout.style = some '%' then
      match number with
      | .finite negative significand shift =>
          Number.ofSteps negative (100 * Number.magnitude significand shift) 1
      | other => other
    else number
  let ending := if layout.style = some '%' then ['%'] else []
  let numeral : Numeral := match scaled with
    | .finite negative significand shift =>
        let parts := layout.magnitudeParts significand shift
        { negative := negative && !(layout.withoutNegativeZero && showsZero parts)
          mark := []
          digits := parts.1
          rest := parts.2 ++ ending }
    | .infinite negative => ⟨negative, [], [], ['i', 'n', 'f'] ++ ending⟩
    | .nan => ⟨false, [], [], ['n', 'a', 'n'] ++ ending⟩
  if (layout.style.map Char.isUpper).getD false then numeral.capital else numeral

def setFractional (layout : Layout) (number : Number) : Except Failure String :=
  if largestPrecision < layout.precision.getD 0 then .error .precisionTooLarge
  else if widest < layout.width.getD 0 then .error .tooWide
  else .ok (String.ofList (layout.setNumeral (layout.fractionalNumeral number)))

/-- A number in the layout of a notation; nothing stands for its written form. -/
def fractional (spelling : List Char) (number : Number) : Except Failure String :=
  if spelling.isEmpty then .ok number.written
  else (read fractionalStandard spelling).bind fun layout =>
    match layout.style with
    | none => layout.setFractional number
    | some style =>
        if isFractional style then layout.setFractional number
        else .error (.styleUnknown style fractionalStandard.kind)

def numberOf (value : Int) : Except Failure Number :=
  match Number.ofDecimal (value < 0) value.natAbs 0 with
  | .infinite _ => .error .numberTooLarge
  | number => .ok number

end ProtectionLimits.Layout
