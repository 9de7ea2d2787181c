/-!
Contract: blank characters and trimming.

Owns the set of characters that count as blank at the ends of a level name,
ASCII and beyond, and the operation that drops them from both ends. Blanks
inside a text are never touched.
-/

set_option autoImplicit false

namespace ProtectionLimits.Text

/-- Blank characters: tabs and line ends, the four information separators, the
space, and the separators of Unicode. -/
def isBlank (character : Char) : Bool :=
  let point := character.toNat
  (0x09 ≤ point && point ≤ 0x0d) || (0x1c ≤ point && point ≤ 0x20) ||
    point == 0x85 || point == 0xa0 || point == 0x1680 ||
    (0x2000 ≤ point && point ≤ 0x200a) || point == 0x2028 || point == 0x2029 ||
    point == 0x202f || point == 0x205f || point == 0x3000

def trim (characters : List Char) : List Char :=
  ((characters.dropWhile isBlank).reverse.dropWhile isBlank).reverse

end ProtectionLimits.Text
