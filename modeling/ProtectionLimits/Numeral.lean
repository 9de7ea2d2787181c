import ProtectionLimits.Decimal

/-!
Contract: the numerals that a setting may use.

Owns the grammar of integer numerals and their values. A numeral has an optional
sign and one or more ASCII digits; leading zeros are allowed, blanks are not,
and one line end behind the last digit is not part of it. Does not own the range
of settings; `Setting` does.
-/

set_option autoImplicit false

namespace ProtectionLimits

/-- A numeral that was read: its sign and its digits. -/
structure Numeral where
  negative : Bool
  digits : List Char
deriving DecidableEq, Repr

namespace Numeral

def withoutLineEnd (characters : List Char) : List Char :=
  if characters.getLast? = some '\n' then characters.dropLast else characters

def ofDigits? (negative : Bool) (characters : List Char) : Option Numeral :=
  if characters ≠ [] ∧ characters.all Decimal.isDigit then some ⟨negative, characters⟩
  else none

def spelled? : List Char → Option Numeral
  | '-' :: rest => ofDigits? true rest
  | '+' :: rest => ofDigits? false rest
  | characters => ofDigits? false characters

def read? (text : String) : Option Numeral :=
  spelled? (withoutLineEnd text.toList)

def value (numeral : Numeral) : Int :=
  if numeral.negative then -(Decimal.valueOf numeral.digits : Int)
  else Decimal.valueOf numeral.digits

end Numeral

end ProtectionLimits
