import ProtectionLimits.Text.ByteReader
import ProtectionLimits.Text.CharacterName
import ProtectionLimits.Text.Encoding.Units

/-!
Contract: encodings with escapes.

Owns the two encodings in which a byte stands for the code point of its number and
a backslash announces an escape. The full form has short escapes for marks, octal
and hexadecimal escapes and escapes by name, and a backslash before anything else
stays what it is. The plain form has only the two long hexadecimal escapes. The two
halves of a character that are escaped one behind the other are one character.
-/

set_option autoImplicit false

namespace ProtectionLimits.Text

/-! ### Digits -/

def hexDigit? (byte : UInt8) : Option Nat :=
  let code := byte.toNat
  if 0x30 ≤ code && code ≤ 0x39 then some (code - 0x30)
  else if 0x41 ≤ code && code ≤ 0x46 then some (code - 0x41 + 10)
  else if 0x61 ≤ code && code ≤ 0x66 then some (code - 0x61 + 10)
  else none

/-- The values of the digits at the beginning of some bytes, at most so many. -/
def leadingDigits (digit? : UInt8 → Option Nat) : Nat → List UInt8 → List Nat
  | 0, _ => []
  | _, [] => []
  | most + 1, byte :: rest =>
      match digit? byte with
      | some digit => digit :: leadingDigits digit? most rest
      | none => []

def ofDigits (base : Nat) (digits : List Nat) : Nat :=
  digits.foldl (fun value digit => base * value + digit) 0

def octalDigit? (byte : UInt8) : Option Nat :=
  if 0x30 ≤ byte.toNat && byte.toNat ≤ 0x37 then some (byte.toNat - 0x30) else none

/-! ### Escapes by number -/

def escapeForm? (letter : UInt8) : Option EscapeForm :=
  if letter == 0x78 then some ⟨'x', 2⟩
  else if letter == 0x75 then some ⟨'u', 4⟩
  else if letter == 0x55 then some ⟨'U', 8⟩
  else none

/-- The second half that is escaped at the beginning of some bytes, and how many
bytes the escape takes. -/
def escapedHalf? : List UInt8 → Option (Nat × Nat)
  | backslash :: letter :: rest =>
      match escapeForm? letter with
      | none => none
      | some form =>
          let digits := leadingDigits hexDigit? form.digits rest
          let unit := ofDigits 16 digits
          if backslash == 0x5c && digits.length == form.digits && isSecondHalf unit then
            some (unit, form.digits + 2)
          else none
  | _ => none

/-- What a hexadecimal escape is, with the bytes behind its letter. -/
def numberFinding (tooLarge : DecodingFlaw) (form : EscapeForm) (rest : List UInt8) :
    Finding Unit :=
  let digits := leadingDigits hexDigit? form.digits rest
  let point := ofDigits 16 digits
  if digits.length < form.digits then .flawed (digits.length + 1) (.escapeCut form)
  else if 0x10ffff < point then .flawed (form.digits + 1) tooLarge
  else
    match isFirstHalf point, escapedHalf? (rest.drop form.digits) with
    | true, some (unit, length) =>
        .character (joinedHalves point unit) (form.digits + 1 + length) ()
    | _, _ => .character (Char.ofNat point) (form.digits + 1) ()

/-! ### Escapes by letter and by name -/

/-- What the short escapes stand for. A backslash at the end of a line is nothing. -/
def shortEscapes : List (UInt8 × List Char) :=
  [(0x0a, []), (0x5c, ['\\']), (0x27, ['\x27']), (0x22, ['"']), (0x62, ['\x08']),
    (0x66, ['\x0c']), (0x74, ['\t']), (0x6e, ['\n']), (0x72, ['\r']), (0x76, ['\x0b']),
    (0x61, ['\x07'])]

/-- What an escape by name is, with the bytes behind its letter. -/
def nameFinding : List UInt8 → Finding Unit
  | [] => .cut .escapeNameMalformed
  | brace :: rest =>
      if brace != 0x7b then .flawed 1 .escapeNameMalformed
      else
        let name := rest.takeWhile (· != 0x7d)
        if name.length == rest.length then .cut .escapeNameMalformed
        else if name.isEmpty then .flawed 2 .escapeNameMalformed
        else
          match characterOfName? (name.map fun byte => Char.ofNat byte.toNat) with
          | some found => .character found (name.length + 3) ()
          | none => .flawed (name.length + 3) .escapeNameUnknown

/-! ### Reading -/

def byteChar (byte : UInt8) : Char := Char.ofNat byte.toNat

def fullEscape (second : UInt8) (others : List UInt8) : Finding Unit :=
  match shortEscapes.lookup second, escapeForm? second, octalDigit? second with
  | some found, _, _ => .characters found 1 ()
  | none, some form, _ => numberFinding .escapeTooLarge form others
  | none, none, some first =>
      let digits := leadingDigits octalDigit? 2 others
      .character (Char.ofNat (ofDigits 8 (first :: digits))) (digits.length + 1) ()
  | none, none, none =>
      if second == 0x4e then nameFinding others
      else .characters ['\\', byteChar second] 1 ()

def escapedReader : ByteReader Unit :=
  fun state byte rest =>
    if byte != 0x5c then .character (byteChar byte) 0 state
    else
      match rest with
      | [] => .flawed 0 .escapeMissing
      | second :: others => fullEscape second others

/-- The plain form. A backslash before a backslash takes it away. -/
def plainlyEscapedReader : ByteReader Unit :=
  fun state byte rest =>
    match byte == 0x5c, rest with
    | true, second :: others =>
        match escapeForm? second, second == 0x78 with
        | some form, false => numberFinding .escapeOutside form others
        | _, _ => .characters ['\\', byteChar second] 1 state
    | _, _ => .character (byteChar byte) 0 state

/-! ### Small facts -/

end ProtectionLimits.Text
