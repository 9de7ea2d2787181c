import ProtectionLimits.Text.ByteReader

/-!
Contract: codes of two bytes.

Owns what the encodings of East Asia share: the code of two bytes, the row and the
cell that the upper halves of two bytes stand for, and the reader that takes ASCII
as it is and any other byte as the first of two.
-/

set_option autoImplicit false

namespace ProtectionLimits.Text

def pairCode (first second : UInt8) : Nat := 0x100 * first.toNat + second.toNat

/-- The row and the cell of two bytes of the upper half. -/
def upperCode? (first second : UInt8) : Option Nat :=
  if 0x80 ≤ first.toNat && 0x80 ≤ second.toNat then some (pairCode first second - 0x8080)
  else none

/-- ASCII, and codes of two bytes for everything else. -/
def pairReader (character? : UInt8 → UInt8 → Option Char) : ByteReader Unit :=
  fun state byte rest =>
    match asciiChar? byte, rest with
    | some character, _ => .character character 0 state
    | none, [] => .cut .incompleteSequence
    | none, second :: _ => .ofSet? (character? byte second) 1 state 0

/-- Rows and cells count from 0x21 where the bytes count from 0xa1. -/
example : upperCode? 0xb0 0xa1 = some 0x3021 := by decide

end ProtectionLimits.Text
