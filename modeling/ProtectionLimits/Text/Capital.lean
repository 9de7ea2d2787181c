/-!
Contract: capital forms, as far as they are ASCII text.

Owns the map from a character to the capital letters it stands for. The map is
exact for every character whose capital form is ASCII text, single letters and
ligatures alike. Any other character is its own image, so an image is ASCII
text exactly when the true capital form is. That is all a comparison with an
ASCII word can observe.
-/

set_option autoImplicit false

namespace ProtectionLimits.Text

def capital (character : Char) : List Char :=
  if character.isLower then [Char.ofNat (character.toNat - 0x20)]
  else match character.toNat with
    | 0xdf => ['S', 'S']
    | 0x131 => ['I']
    | 0x17f => ['S']
    | 0xfb00 => ['F', 'F']
    | 0xfb01 => ['F', 'I']
    | 0xfb02 => ['F', 'L']
    | 0xfb03 => ['F', 'F', 'I']
    | 0xfb04 => ['F', 'F', 'L']
    | 0xfb05 => ['S', 'T']
    | 0xfb06 => ['S', 'T']
    | _ => [character]

def capitals (characters : List Char) : List Char :=
  characters.flatMap capital

end ProtectionLimits.Text
