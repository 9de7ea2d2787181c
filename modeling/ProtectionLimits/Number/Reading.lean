import ProtectionLimits.Decimal
import ProtectionLimits.Number

/-!
Contract: reading the written form of a number.

Owns the numerals with a point, an exponent or both, and the names of the
numbers that are not finite. A numeral stands for the number nearest to its
decimal value.
-/

set_option autoImplicit false

namespace ProtectionLimits.Number

def splitSign : List Char → Bool × List Char
  | '-' :: rest => (true, rest)
  | '+' :: rest => (false, rest)
  | rest => (false, rest)

/-- A run of digits as a number; nothing but digits is accepted. -/
def digits? (characters : List Char) : Option Nat :=
  if characters.all Decimal.isDigit && !characters.isEmpty then
    some (Decimal.valueOf characters)
  else none

/-- The exponent of a numeral: a run of digits with an optional sign. -/
def exponent? (characters : List Char) : Option Int :=
  let (negative, digits) := splitSign characters
  (digits? digits).map fun power => if negative then -(power : Int) else power

def unsigned? (negative : Bool) (characters : List Char) : Option Number :=
  let mantissa := characters.takeWhile (· != 'e')
  let power := characters.dropWhile (· != 'e')
  let whole := mantissa.takeWhile (· != '.')
  let fraction := (mantissa.dropWhile (· != '.')).drop 1
  match digits? (whole ++ fraction), if power.isEmpty then some 0 else exponent? (power.drop 1) with
  | some digits, some exponent => some (ofDecimal negative digits (exponent - fraction.length))
  | _, _ => none

def read? (text : String) : Option Number :=
  let (negative, rest) := splitSign text.toList
  if rest == ['n', 'a', 'n'] then some nan
  else if rest == ['i', 'n', 'f'] then some (infinite negative)
  else unsigned? negative rest

end ProtectionLimits.Number
