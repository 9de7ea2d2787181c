import ProtectionLimits.Text.Charset.Big5
import ProtectionLimits.Text.Charset.Gb18030
import ProtectionLimits.Text.Charset.Gb2312
import ProtectionLimits.Text.Charset.Gbk
import ProtectionLimits.Text.Charset.Hkscs
import ProtectionLimits.Text.Encoding.Pairs

/-!
Contract: the encodings of Chinese.

Owns the readers of Big5, of its two extensions, of GB 2312 in its plain form and
in the form that stays within ASCII, of GBK and of GB 18030. The last reaches every
code point: by two bytes where GBK does and in some blocks besides, and by four
bytes, which are numbers, for the rest.
-/

set_option autoImplicit false

namespace ProtectionLimits.Text

/-! ### Traditional characters -/

def big5Reader : ByteReader Unit :=
  pairReader fun first second => big5.char? (pairCode first second)

/-- Big5 as code page 950 has it. -/
def codepage950Reader : ByteReader Unit :=
  pairReader fun first second =>
    let code := pairCode first second
    (codepage950.char? code).or (big5.char? code)

/-- Whether a code lies where the supplement of Hong Kong takes the place of
Big5. -/
def isSupplanted (code : Nat) : Bool := 0xc6a1 ≤ code && code < 0xc900

/-- What a code stands for in Big5 with the supplement of Hong Kong. -/
def hongKongChars? (code : Nat) : Option (List Char) :=
  match hongKong.char? code with
  | some character => some [character]
  | none =>
      match hongKongPairs.lookup code with
      | some pair => some pair.toList
      | none => if isSupplanted code then none else (big5.char? code).map ([·])

def hongKongReader : ByteReader Unit :=
  fun state byte rest =>
    match asciiChar? byte, rest with
    | some character, _ => .character character 0 state
    | none, [] => .cut .incompleteSequence
    | none, second :: _ =>
        match hongKongChars? (pairCode byte second) with
        | some found => .characters found 1 state
        | none => .flawed 0 .illegalSequence

/-! ### Simplified characters -/

def gb2312Reader : ByteReader Unit :=
  pairReader fun first second => (upperCode? first second).bind gb2312.char?

/-- The character of two bytes in GBK. -/
def gbkChar? (first second : UInt8) : Option Char :=
  (gbkAdditions.char? (pairCode first second)).or ((upperCode? first second).bind gb2312.char?)

def gbkReader : ByteReader Unit := pairReader gbkChar?

/-- The number that four bytes stand for. The second and the fourth are decimal
digits. -/
def fourByteNumber? (first second third fourth : UInt8) : Option Nat :=
  if 0x81 ≤ first.toNat && first.toNat ≤ 0xfe && 0x30 ≤ second.toNat && second.toNat ≤ 0x39
      && 0x81 ≤ third.toNat && third.toNat ≤ 0xfe && 0x30 ≤ fourth.toNat && fourth.toNat ≤ 0x39
  then
    some (((first.toNat - 0x81) * 10 + (second.toNat - 0x30)) * 1260
      + (third.toNat - 0x81) * 10 + (fourth.toNat - 0x30))
  else none

/-- The number at which the code points from 0x10000 on begin. -/
def supplementaryStart : Nat := 15 * 12600

def fourByteChar? (number : Nat) : Option Char :=
  if number < supplementaryStart then (codePoint? number gb18030Rest).map Char.ofNat
  else
    let point := 0x10000 + (number - supplementaryStart)
    if point.isValidChar then some (Char.ofNat point) else none

/-- GB 18030. A decimal digit in the second place announces four bytes. -/
def gb18030Reader : ByteReader Unit :=
  fun state byte rest =>
    match asciiChar? byte, rest with
    | some character, _ => .character character 0 state
    | none, [] => .cut .incompleteSequence
    | none, second :: more =>
        if 0x30 ≤ second.toNat && second.toNat ≤ 0x39 then
          match more with
          | third :: fourth :: _ =>
              .ofSet? ((fourByteNumber? byte second third fourth).bind fourByteChar?) 3 state 0
          | _ => .cut .incompleteSequence
        else
          .ofSet? ((gbkChar? byte second).or (blockChar? (pairCode byte second) gb18030Blocks))
            1 state 0

/-! ### Simplified characters within ASCII -/

/-- What a tilde with the byte behind it is: a tilde, nothing at the end of a line,
or the way into and out of the characters of two bytes. The state says whether
these are being read. -/
def tildeFinding (isWide : Bool) (second : UInt8) : Finding Bool :=
  if second == 0x7d && isWide then .characters [] 1 false
  else if isWide then .flawed 0 .illegalSequence
  else if second == 0x7e then .character '~' 1 false
  else if second == 0x7b then .characters [] 1 true
  else if second == 0x0a then .characters [] 1 false
  else .flawed 0 .illegalSequence

/-- GB 2312 within ASCII. -/
def tildeReader : ByteReader Bool :=
  fun isWide byte rest =>
    if byte == 0x7e then
      match rest with
      | [] => .cut .incompleteSequence
      | second :: _ => tildeFinding isWide second
    else
      match asciiChar? byte, isWide, rest with
      | none, _, _ => .flawed 0 .illegalSequence
      | some character, false, _ => .character character 0 isWide
      | some _, true, [] => .cut .incompleteSequence
      | some _, true, second :: _ => .ofSet? (gb2312.char? (pairCode byte second)) 1 isWide 0

/-! ### Small facts -/

end ProtectionLimits.Text
