import ProtectionLimits.Layout

/-!
Contract: numerals set in a layout.

Owns the parts of a numeral, its sign, the groups of its digits, and filling it
up. A numeral that is parted and filled with zeros grows by leading digits, which
belong to its groups, so that no group begins with a separator; it may be one
wider than its room for that reason.
-/

set_option autoImplicit false

namespace ProtectionLimits.Layout

/-- A numeral: whether it is negative, the mark of its base, the digits before the
point, and everything behind them. Names of numbers have no digits. -/
structure Numeral where
  negative : Bool
  mark : List Char
  digits : List Char
  rest : List Char
deriving DecidableEq, Repr

namespace Numeral

def capital (numeral : Numeral) : Numeral where
  negative := numeral.negative
  mark := numeral.mark.map Char.toUpper
  digits := numeral.digits.map Char.toUpper
  rest := numeral.rest.map Char.toUpper

end Numeral

def signOf (rule : Option SignRule) (negative : Bool) : List Char :=
  if negative then ['-']
  else match rule with
    | some .always => ['+']
    | some .blank => [' ']
    | _ => []

/-! ### Groups of digits -/

def separatorOf : Grouping → Char
  | .comma => ','
  | .underscore => '_'

/-- How many digits make a group: three in decimal notation and four in the other
bases. -/
def groupSize (style : Option Char) : Nat :=
  match style with
  | some style => if ['b', 'o', 'x', 'X'].contains style then 4 else 3
  | none => 3

/-- Characters with a separator behind every full group that something follows.
So many of the group at the beginning are already taken. -/
def separated (size : Nat) (separator : Char) (taken : Nat) : List Char → List Char
  | [] => []
  | [last] => [last]
  | first :: rest =>
      if taken + 1 = size then first :: separator :: separated size separator 0 rest
      else first :: separated size separator (taken + 1) rest

def grouped (size : Nat) (separator : Char) (digits : List Char) : List Char :=
  (separated size separator 0 digits.reverse).reverse

/-- How many digits fill a width together with the separators between them. -/
def digitsFilling (grouping : Option Grouping) (size width : Nat) : Nat :=
  match grouping with
  | none => width
  | some _ => width - (width - 1) / (size + 1)

def groupedWithin (layout : Layout) (width : Nat) (digits : List Char) : List Char :=
  let size := groupSize layout.style
  let zeros := digitsFilling layout.grouping size width - digits.length
  let filled := List.replicate zeros '0' ++ digits
  match layout.grouping with
  | none => filled
  | some grouping => grouped size (separatorOf grouping) filled

/-! ### Setting -/

def setNumeral (layout : Layout) (numeral : Numeral) : List Char :=
  let sign := signOf layout.sign numeral.negative
  let width := layout.width.getD 0
  let others := sign.length + numeral.mark.length + numeral.rest.length
  let digits :=
    if numeral.digits.isEmpty then []
    else if layout.fill = '0' && layout.alignment = .parted then
      groupedWithin layout (width - others) numeral.digits
    else groupedWithin layout 0 numeral.digits
  let head := sign ++ numeral.mark
  let body := digits ++ numeral.rest
  if layout.alignment = .parted then
    head ++ fillUp layout.fill .parted (width - head.length) body
  else fillUp layout.fill layout.alignment width (head ++ body)

end ProtectionLimits.Layout
