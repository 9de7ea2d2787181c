import ProtectionLimits.Text.Charset.Codepage932
import ProtectionLimits.Text.Charset.JisX0208
import ProtectionLimits.Text.Charset.JisX0212
import ProtectionLimits.Text.Charset.JisX0213
import ProtectionLimits.Text.Encoding.Pairs

/-!
Contract: the encodings of Japanese.

Owns the readers of the sets JIS X 0208, 0212 and 0213 in the upper half and in the
shifted form, and of code page 932. The small katakana of one byte stand beside the
characters of two bytes in all of them. The codes of JIS X 0213 that came later are
left out of the readers for its first edition.
-/

set_option autoImplicit false

namespace ProtectionLimits.Text

def katakana? (byte : UInt8) : Option Char :=
  if 0xa1 ≤ byte.toNat && byte.toNat ≤ 0xdf then some (Char.ofNat (0xfec0 + byte.toNat)) else none

/-! ### Planes -/

/-- An edition of JIS X 0213. -/
inductive Edition where
  | first
  | second
deriving DecidableEq, Repr

/-- Whether a code of the first plane came only after an edition. -/
def isLater (edition : Edition) (code : Nat) : Bool :=
  edition == .first && jisX0213Later.contains code

def firstPlane? (edition : Edition) (code : Nat) : Option (List Char) :=
  if isLater edition code then none
  else
    match (jisX0208.char? code).or (jisX0213First.char? code) with
    | some character => some [character]
    | none => (jisX0213Pairs.lookup code).map String.toList

/-- What a code of the second plane stands for. One character has a different shape
in the first edition. -/
def secondPlane? (edition : Edition) (code : Nat) : Option Char :=
  if edition == .first && code == 0x7d3b then some '鬝' else jisX0213Second.char? code

/-- How many bytes behind the first a code of two bytes takes with it if it stands for
nothing: a code that came later takes both of its bytes. -/
def missingLength (edition : Edition) (code : Option Nat) : Nat :=
  if code.any (isLater edition) then 1 else 0

/-- Characters of a set, or the flaw that there are none. -/
def Finding.ofChars? {State : Type} (found : Option (List Char)) (more : Nat) (state : State)
    (length : Nat) : Finding State :=
  match found with
  | some text => .characters text more state
  | none => .flawed length .illegalSequence

/-! ### In the upper half -/

/-- Reading in the upper half: two bytes are a code of the main set, three bytes that
begin with 0x8f one of the further set, and 0x8e comes before the small katakana.
Codes that stand for nothing are short of the bytes that they do not take with
them. -/
def upperReader (main further : Nat → Option (List Char)) (missing : Option Nat → Nat) :
    ByteReader Unit :=
  fun state byte rest =>
    match asciiChar? byte, rest with
    | some character, _ => .character character 0 state
    | none, [] => .cut .incompleteSequence
    | none, second :: others =>
        if byte == 0x8e then .ofSet? (katakana? second) 1 state 0
        else if byte == 0x8f then
          match others with
          | [] => .cut .incompleteSequence
          | third :: _ => .ofChars? ((upperCode? second third).bind further) 2 state 0
        else
          let code := upperCode? byte second
          .ofChars? (code.bind main) 1 state (missing code)

/-- JIS X 0208 with JIS X 0212. -/
def upperJapaneseReader : ByteReader Unit :=
  upperReader (fun code => (jisX0208.char? code).map ([·]))
    (fun code => (jisX0212.char? code).map ([·])) fun _ => 0

/-- JIS X 0213 with JIS X 0212, where one mark is read in its full width. -/
def upperPlanesReader (edition : Edition) : ByteReader Unit :=
  upperReader (fun code => if code == 0x2232 then some ['～'] else firstPlane? edition code)
    (fun code => ((secondPlane? edition code).or (jisX0212.char? code)).map ([·]))
    (missingLength edition)

/-! ### Shifted -/

/-- The row from zero on and the cell from 0x21 on of two bytes in the shifted
form. -/
def shiftedPlace? (first second : UInt8) : Option (Nat × Nat) :=
  let byte := second.toNat
  if byte < 0x40 || byte == 0x7f || 0xfc < byte then none
  else
    let pairOfRows := if first.toNat < 0xe0 then first.toNat - 0x81 else first.toNat - 0xc1
    let place := if byte < 0x80 then byte - 0x40 else byte - 0x41
    some (if place < 0x5e then (2 * pairOfRows, place + 0x21)
      else (2 * pairOfRows + 1, place - 0x5e + 0x21))

/-- Whether a byte begins a code of the shifted form, up to a last byte. -/
def beginsShifted (last : Nat) (byte : UInt8) : Bool :=
  (0x81 ≤ byte.toNat && byte.toNat ≤ 0x9f) || (0xe0 ≤ byte.toNat && byte.toNat ≤ last)

/-- The code of a row from zero on and a cell. -/
def placeCode (place : Nat × Nat) : Nat := 0x100 * (place.1 + 0x21) + place.2

/-- Reading in the shifted form, given what single bytes and what places are, and how
many bytes a place that stands for nothing takes with it. -/
def shiftedReader (single? : UInt8 → Option Char) (last : Nat)
    (characters? : Nat × Nat → Option (List Char)) (missing : Option (Nat × Nat) → Nat) :
    ByteReader Unit :=
  fun state byte rest =>
    match single? byte with
    | some character => .character character 0 state
    | none =>
        if beginsShifted last byte then
          match rest with
          | [] => .cut .incompleteSequence
          | second :: _ =>
              let place := shiftedPlace? byte second
              .ofChars? (place.bind characters?) 1 state (missing place)
        else .flawed 0 .illegalSequence

/-- JIS X 0208 in the shifted form. -/
def shiftedJapaneseReader : ByteReader Unit :=
  shiftedReader (fun byte => (asciiChar? byte).or (katakana? byte)) 0xea
    (fun place => (jisX0208.char? (placeCode place)).map ([·])) fun _ => 0

/-- The letter of a byte in the Roman set of JIS X 0201, which has a yen and an
overline where ASCII has a backslash and a tilde. -/
def romanChar? (byte : UInt8) : Option Char :=
  if byte == 0x5c then some '¥' else if byte == 0x7e then some '‾' else asciiChar? byte

/-- The row of the second plane that stands at a row of the shifted form. -/
def secondPlaneRow (row : Nat) : Nat :=
  if 0x67 ≤ row then row + 0x07
  else if 0x63 ≤ row || row == 0x5f then row - 0x37
  else row - 0x3d

/-- JIS X 0213 in the shifted form. The backslash that single bytes lack has a code
of two. -/
def shiftedPlanesReader (edition : Edition) : ByteReader Unit :=
  shiftedReader (fun byte => (romanChar? byte).or (katakana? byte)) 0xfc
    (fun place =>
      if place.1 < 0x5e then
        if placeCode place == 0x2140 then some ['\\'] else firstPlane? edition (placeCode place)
      else (secondPlane? edition (0x100 * secondPlaneRow place.1 + place.2)).map ([·]))
    fun place => missingLength edition (place.map placeCode)

/-! ### Code page 932 -/

/-- The character of a single byte in code page 932. -/
def codepage932Single? (byte : UInt8) : Option Char :=
  if byte.toNat ≤ 0x80 then some (Char.ofNat byte.toNat)
  else if byte == 0xa0 then some '\uf8f0'
  else if 0xfd ≤ byte.toNat then some (Char.ofNat (0xf8f1 + (byte.toNat - 0xfd)))
  else katakana? byte

/-- The character that a user gives a meaning, of two bytes in code page 932. -/
def userDefined? (first second : UInt8) : Option Char :=
  let byte := second.toNat
  if 0xf0 ≤ first.toNat && first.toNat ≤ 0xf9 && 0x40 ≤ byte && byte != 0x7f && byte ≤ 0xfc then
    some (Char.ofNat (0xe000 + 188 * (first.toNat - 0xf0)
      + (if byte < 0x80 then byte - 0x40 else byte - 0x41)))
  else none

/-- The character of two bytes in code page 932. -/
def codepage932Char? (first second : UInt8) : Option Char :=
  match codepage932.char? (pairCode first second) with
  | some character => some character
  | none =>
      if beginsShifted 0xea first then
        (shiftedPlace? first second).bind fun place => jisX0208.char? (placeCode place)
      else userDefined? first second

def codepage932Reader : ByteReader Unit :=
  fun state byte rest =>
    match codepage932Single? byte, rest with
    | some character, _ => .character character 0 state
    | none, [] => .cut .incompleteSequence
    | none, second :: _ => .ofSet? (codepage932Char? byte second) 1 state 0

/-! ### Small facts -/

end ProtectionLimits.Text
