import ProtectionLimits.Text.Charset.KsX1001
import ProtectionLimits.Text.Encoding.Pairs

/-!
Contract: the encodings of Korean.

Owns the readers of KS X 1001 in the upper half, of code page 949 and of Johab. A
syllable is written with an initial, a vowel and perhaps a final letter, and its
code point follows from these. KS X 1001 has only the frequent syllables. The upper
half spells the others out, code page 949 adds them in order, and Johab writes every
syllable by its letters.
-/

set_option autoImplicit false

namespace ProtectionLimits.Text

/-! ### Syllables -/

def initialLetters : List Char := "ㄱㄲㄴㄷㄸㄹㅁㅂㅃㅅㅆㅇㅈㅉㅊㅋㅌㅍㅎ".toList

def finalLetters : List Char := "ㄱㄲㄳㄴㄵㄶㄷㄹㄺㄻㄼㄽㄾㄿㅀㅁㅂㅄㅅㅆㅇㅈㅊㅋㅌㅍㅎ".toList

def vowelCount : Nat := 21

def vowelLetter (number : Nat) : Char := Char.ofNat (0x314f + number)

/-- How many forms a syllable has by its final letter: with each of them, and
without. -/
def finalForms : Nat := 28

/-- The syllable of an initial letter and a vowel, by numbers from zero on, and a
final letter, where zero stands for none. -/
def syllable (initialNumber vowelNumber finalNumber : Nat) : Char :=
  Char.ofNat (0xac00 + (initialNumber * vowelCount + vowelNumber) * finalForms + finalNumber)

def isSyllable (character : Char) : Bool :=
  0xac00 ≤ character.toNat && character.toNat ≤ 0xd7a3

def letterNumber? (letters : List Char) (letter : Char) : Option Nat :=
  letters.findIdx? (· == letter)

/-! ### In the upper half -/

/-- The code that stands for a missing letter and announces a spelled syllable. -/
def fillerCode : Nat := 0x2454

def spelledLetter? (lead byte : UInt8) : Option Char :=
  if lead == 0xa4 then (upperCode? lead byte).bind ksX1001.char? else none

/-- The syllable that six bytes spell out behind the announcement. -/
def spelledSyllable? : List UInt8 → Option Char
  | first :: initialByte :: second :: vowelByte :: third :: finalByte :: _ => do
      let initialLetter ← spelledLetter? first initialByte
      let vowel ← spelledLetter? second vowelByte
      let initialNumber ← letterNumber? initialLetters initialLetter
      let vowelNumber ←
        if 0x314f ≤ vowel.toNat && vowel.toNat < 0x314f + vowelCount then
          some (vowel.toNat - 0x314f)
        else none
      let finalLetter ← spelledLetter? third finalByte
      if pairCode third finalByte == fillerCode + 0x8080 then
        some (syllable initialNumber vowelNumber 0)
      else
        let finalNumber ← letterNumber? finalLetters finalLetter
        some (syllable initialNumber vowelNumber (finalNumber + 1))
  | _ => none

/-- KS X 1001 in the upper half. -/
def upperKoreanReader : ByteReader Unit :=
  fun state byte rest =>
    match asciiChar? byte, rest with
    | some character, _ => .character character 0 state
    | none, [] => .cut .incompleteSequence
    | none, second :: others =>
        if upperCode? byte second == some fillerCode then
          if others.length < 6 then .cut .incompleteSequence
          else .ofSet? (spelledSyllable? others) 7 state 0
        else .ofSet? ((upperCode? byte second).bind ksX1001.char?) 1 state 0

/-! ### Code page 949 -/

/-- The syllables of KS X 1001 in order. -/
def frequentSyllables : List Nat :=
  ksX1001.flatMap fun stretch =>
    (stretch.characters.toList.filter isSyllable).map Char.toNat

/-- The code point with a number among those from a first one on that are not in an
ascending list. -/
def missingPoint (first number : Nat) : List Nat → Nat
  | [] => first + number
  | present :: rest =>
      if first + number < present then first + number
      else missingPoint (present + 1) (number - (present - first)) rest

/-- The place of a byte among the second bytes of the further syllables. -/
def furtherColumn? (byte : UInt8) : Option Nat :=
  let code := byte.toNat
  if 0x41 ≤ code && code ≤ 0x5a then some (code - 0x41)
  else if 0x61 ≤ code && code ≤ 0x7a then some (code - 0x61 + 26)
  else if 0x81 ≤ code && code ≤ 0xfe then some (code - 0x81 + 52)
  else none

/-- The number of a further syllable by its two bytes. The rows from 0xa1 on are
shorter, since their ends belong to KS X 1001. -/
def furtherNumber? (first second : UInt8) : Option Nat :=
  match furtherColumn? second with
  | none => none
  | some column =>
      let row := first.toNat
      if 0x81 ≤ row && row ≤ 0xa0 then some ((row - 0x81) * 178 + column)
      else if 0xa1 ≤ row && row ≤ 0xc6 && column < 84 then
        some (32 * 178 + (row - 0xa1) * 84 + column)
      else none

/-- How many syllables KS X 1001 lacks. -/
def furtherCount : Nat := 8822

def furtherSyllable? (first second : UInt8) : Option Char :=
  match furtherNumber? first second with
  | none => none
  | some number =>
      if number < furtherCount then some (Char.ofNat (missingPoint 0xac00 number frequentSyllables))
      else none

def codepage949Reader : ByteReader Unit :=
  pairReader fun first second =>
    ((upperCode? first second).bind ksX1001.char?).or (furtherSyllable? first second)

/-! ### Johab -/

/-- What five bits say about a part of a syllable. -/
inductive SyllablePart where
  | filler
  | letter (number : Nat)
deriving DecidableEq, Repr

/-- The initial letter that five bits stand for. -/
def johabInitial? (bits : Nat) : Option SyllablePart :=
  if bits == 1 then some .filler
  else if 2 ≤ bits && bits ≤ 20 then some (.letter (bits - 2))
  else none

/-- The vowel that five bits stand for. Every eighth pair is left out. -/
def johabVowel? (bits : Nat) : Option SyllablePart :=
  if bits == 2 then some .filler
  else if 3 ≤ bits && bits ≤ 7 then some (.letter (bits - 3))
  else if 10 ≤ bits && bits ≤ 15 then some (.letter (bits - 5))
  else if 18 ≤ bits && bits ≤ 23 then some (.letter (bits - 7))
  else if 26 ≤ bits && bits ≤ 29 then some (.letter (bits - 9))
  else none

/-- The final letter that five bits stand for, from one on. -/
def johabFinal? (bits : Nat) : Option SyllablePart :=
  if bits == 1 then some .filler
  else if 2 ≤ bits && bits ≤ 17 then some (.letter (bits - 1))
  else if 19 ≤ bits && bits ≤ 29 then some (.letter (bits - 2))
  else none

def ofParts? : SyllablePart → SyllablePart → SyllablePart → Option Char
  | .filler, .filler, .filler => some '\u3000'
  | .filler, .filler, .letter number => finalLetters[number - 1]?
  | .filler, .letter number, .filler => some (vowelLetter number)
  | .letter number, .filler, .filler => initialLetters[number]?
  | .letter first, .letter second, .filler => some (syllable first second 0)
  | .letter first, .letter second, .letter third => some (syllable first second third)
  | _, _, _ => none

/-- The syllable or letter of two bytes in Johab. -/
def johabSyllable? (first second : UInt8) : Option Char := do
  let code := pairCode first second
  let initialPart ← johabInitial? (code / 0x400 % 0x20)
  let vowelPart ← johabVowel? (code / 0x20 % 0x20)
  let finalPart ← johabFinal? (code % 0x20)
  ofParts? initialPart vowelPart finalPart

/-- The row and cell of KS X 1001 that two bytes of Johab stand for. Two rows share
a first byte. -/
def johabPlace? (first second : UInt8) : Option Nat :=
  let lead := first.toNat
  let byte := second.toNat
  if lead == 0xdf || 0xf9 < lead || byte < 0x31 || (0x80 ≤ byte && byte < 0x91) || byte == 0x7f
      || byte == 0xff || (lead == 0xda && 0xa1 ≤ byte && byte ≤ 0xd3) || lead < 0xd9 then
    none
  else
    let row := if lead < 0xe0 then 2 * (lead - 0xd9) else 2 * lead - 0x197
    let place := if byte < 0x91 then byte - 0x31 else byte - 0x43
    some (if place < 0x5e then 0x100 * (row + 0x21) + (place + 0x21)
      else 0x100 * (row + 0x22) + (place - 0x5e + 0x21))

def johabReader : ByteReader Unit :=
  pairReader fun first second =>
    if first.toNat < 0xd8 then johabSyllable? first second
    else (johabPlace? first second).bind ksX1001.char?

/-! ### Small facts -/

end ProtectionLimits.Text
