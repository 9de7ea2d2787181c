import ProtectionLimits.Decimal
import ProtectionLimits.Layout.Fractional

/-!
Contract: integers set in a layout.

Owns the styles of integers: the numeral in one of four bases, and the character
that an integer is the number of. In a style of numbers an integer is set like the
number that it is; `Layout.Fractional` owns those.
-/

set_option autoImplicit false

namespace ProtectionLimits.Layout

/-- What integers take for granted. The kind is the one that is named in failures. -/
def wholeStandard (kind : String) : Standard := ⟨kind, .right, some 'd'⟩

def baseOf? : Char → Option (Nat × List Char)
  | 'b' => some (2, ['0', 'b'])
  | 'o' => some (8, ['0', 'o'])
  | 'x' => some (16, ['0', 'x'])
  | 'X' => some (16, ['0', 'x'])
  | 'd' => some (10, [])
  | 'n' => some (10, [])
  | _ => none

def digitsIn (base number : Nat) : List Char :=
  if base = 10 then Decimal.digits number else Nat.toDigits base number

def wholeNumeral (layout : Layout) (style : Char) (base : Nat) (mark : List Char)
    (value : Int) : Numeral :=
  let numeral : Numeral :=
    { negative := value < 0
      mark := if layout.alternate then mark else []
      digits := digitsIn base value.natAbs
      rest := [] }
  if style = 'X' then numeral.capital else numeral

/-- The greatest integer that is looked at as the number of a character. -/
def greatestWord : Int := 9223372036854775807

def characterOf (value : Int) : Except Failure Char :=
  if value < -(greatestWord + 1) || greatestWord < value then .error .characterTooLarge
  else if value < 0 || 0x10ffff < value then .error .characterOutside
  else if value.toNat.isValidChar then .ok (Char.ofNat value.toNat)
  else .ok '\ufffd'

def characterNumeral (layout : Layout) (value : Int) : Except Failure Numeral :=
  if layout.sign.isSome then .error .signOfCharacter
  else if layout.alternate then .error .alternateOfCharacter
  else (characterOf value).map fun character => ⟨false, [], [], [character]⟩

/-- Whether an integer has too many digits for a base. Only decimal digits are counted. -/
def isTooLong (base : Nat) (value : Int) : Bool := base == 10 && Decimal.isTooLong value

def setWhole (layout : Layout) (style : Char) (base : Nat × List Char) (value : Int) :
    Except Failure String :=
  if layout.precision.isSome then .error .precisionRefused
  else if layout.withoutNegativeZero then .error (.zeroMarkRefused "integer format specifier")
  else if isTooLong base.1 value then .error .numeralTooLong
  else if widest < layout.width.getD 0 then .error .tooWide
  else .ok (String.ofList
    (layout.setNumeral (wholeNumeral layout style base.1 base.2 value)))

def setCharacter (layout : Layout) (value : Int) : Except Failure String :=
  if layout.precision.isSome then .error .precisionRefused
  else if layout.withoutNegativeZero then .error (.zeroMarkRefused "integer format specifier")
  else (layout.characterNumeral value).bind fun numeral =>
    if widest < layout.width.getD 0 then .error .tooWide
    else .ok (String.ofList (layout.setNumeral numeral))

/-- An integer of a kind in the layout of a notation that is not empty. -/
def whole (kind : String) (spelling : List Char) (value : Int) : Except Failure String :=
  (read (wholeStandard kind) spelling).bind fun layout =>
    let style := layout.style.getD 'd'
    if style = 'c' then layout.setCharacter value
    else match baseOf? style with
      | some base => layout.setWhole style base value
      | none =>
          if isFractional style then (numberOf value).bind layout.setFractional
          else .error (.styleUnknown style kind)

end ProtectionLimits.Layout
