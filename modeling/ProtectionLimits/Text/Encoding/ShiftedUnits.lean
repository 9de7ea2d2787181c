import ProtectionLimits.Text.Encoding.Units

/-!
Contract: UTF-7.

Owns the encoding that stays within ASCII and writes every other character between
a plus and a minus, as units of two bytes in digits of base 64. A part between
these marks is read as a whole, so that a flaw of it begins at the plus.
-/

set_option autoImplicit false

namespace ProtectionLimits.Text

def digit64? (byte : UInt8) : Option Nat :=
  let code := byte.toNat
  if 0x41 ≤ code && code ≤ 0x5a then some (code - 0x41)
  else if 0x61 ≤ code && code ≤ 0x7a then some (code - 0x61 + 26)
  else if 0x30 ≤ code && code ≤ 0x39 then some (code - 0x30 + 52)
  else if code = 0x2b then some 62
  else if code = 0x2f then some 63
  else none

/-- A part in base 64 so far: the characters, newest first, a first half that waits
for the second, and the bits that are no unit yet with their number. -/
structure ShiftedPart where
  found : List Char
  half : Option Nat
  bits : Nat
  width : Nat
deriving DecidableEq, Repr

namespace ShiftedPart

def start : ShiftedPart := ⟨[], none, 0, 0⟩

/-- A unit behind a part. A half without its partner is lost. -/
def withUnit (part : ShiftedPart) (unit : Nat) : ShiftedPart :=
  match part.half, isSecondHalf unit with
  | some first, true => { part with found := joinedHalves first unit :: part.found, half := none }
  | _, _ =>
      if isFirstHalf unit then { part with half := some unit }
      else if isSecondHalf unit then { part with half := none }
      else { part with found := Char.ofNat unit :: part.found, half := none }

def withDigit (part : ShiftedPart) (digit : Nat) : ShiftedPart :=
  let bits := part.bits * 0x40 + digit
  let width := part.width + 6
  if width < 16 then { part with bits := bits, width := width }
  else
    let left := width - 16
    let size := Nat.pow 2 left
    { part with bits := bits % size, width := left }.withUnit (bits / size)

def flaw? (part : ShiftedPart) : Option DecodingFlaw :=
  if 6 ≤ part.width then some .shiftCut
  else if part.bits != 0 then some .shiftPadding
  else none

def mayEndText (part : ShiftedPart) : Bool := part.half.isNone && part.flaw?.isNone

end ShiftedPart

/-- What a plus is that was followed by so many digits already, with the bytes
behind them. -/
def shiftedFinding (part : ShiftedPart) (more : Nat) : List UInt8 → Finding Unit
  | [] => if part.mayEndText then .characters part.found.reverse more () else .cut .shiftOpen
  | byte :: rest =>
      match digit64? byte with
      | some digit => shiftedFinding (part.withDigit digit) (more + 1) rest
      | none =>
          match part.flaw? with
          | some flaw => .flawed (more + 1) flaw
          | none =>
              let taken := if byte == 0x2d then more + 1 else more
              .characters part.found.reverse taken ()

/-- Whether a byte stands for itself: an ASCII character but for the plus. -/
def isDirect (byte : UInt8) : Bool := byte.toNat < 0x80 && byte != 0x2b

def shiftedUnitReader : ByteReader Unit :=
  fun state byte rest =>
    if byte == 0x2b then
      match rest with
      | [] => shiftedFinding .start 0 rest
      | second :: _ =>
          if second == 0x2d then .character '+' 1 state
          else if (digit64? second).isNone then .flawed 1 .shiftEmpty
          else shiftedFinding .start 0 rest
    else if isDirect byte then .character (Char.ofNat byte.toNat) 0 state
    else .flawed 0 .shiftNeeded

/-! ### Small facts -/

end ProtectionLimits.Text
