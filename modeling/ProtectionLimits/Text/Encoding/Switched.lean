import ProtectionLimits.Text.Charset.Gb2312
import ProtectionLimits.Text.Codepages
import ProtectionLimits.Text.Encoding.Japanese
import ProtectionLimits.Text.Encoding.Korean

/-!
Contract: encodings that switch between sets within ASCII.

Owns the encodings of ISO 2022. An escape puts a set in one of three places. The
first place is in force, or the second while the text is shifted, and a single
character can be taken from the third. Each encoding says which sets it knows and
which of the three places it has. Another escape than these is not looked into: it
stands for itself up to its last letter.
-/

set_option autoImplicit false

namespace ProtectionLimits.Text

/-- The name of a set in an escape: its last letter, and whether the set has two
bytes to a character. -/
structure SetMark where
  letter : Char
  isWide : Bool
deriving DecidableEq, Repr

def asciiMark : SetMark := ⟨'B', false⟩

structure SwitchSet where
  mark : SetMark
  characters? : Nat → Option (List Char)

/-- An encoding that switches: its sets besides ASCII, and whether it has a second
place with shifts, a third place, and the long escape for JIS X 0208. -/
structure SwitchedEncoding where
  sets : List SwitchSet
  hasSecond : Bool
  hasThird : Bool
  hasLongEscape : Bool

/-- The sets in the three places, whether the text is shifted, and whether an escape
is passing through. -/
structure SwitchState where
  firstPlace : SetMark
  secondPlace : SetMark
  thirdPlace : SetMark
  isShifted : Bool
  isPassing : Bool
deriving DecidableEq, Repr

namespace SwitchState

def start : SwitchState := ⟨asciiMark, asciiMark, asciiMark, false, false⟩

def current (state : SwitchState) : SetMark :=
  if state.isShifted then state.secondPlace else state.firstPlace

/-- A set put in a place, counted from zero. -/
def designate (state : SwitchState) (place : Nat) (mark : SetMark) : SwitchState :=
  match place with
  | 0 => { state with firstPlace := mark }
  | 1 => { state with secondPlace := mark }
  | _ => { state with thirdPlace := mark }

end SwitchState

/-! ### Escapes -/

def endsEscape (byte : UInt8) : Bool :=
  (0x41 ≤ byte.toNat && byte.toNat ≤ 0x5a) || byte == 0x40

def escapeLimit : Nat := 16

inductive EscapeEnd where
  /-- It has so many bytes. -/
  | behind (length : Nat)
  /-- The bytes end before it does. -/
  | cut
  /-- It is longer than an escape can be. -/
  | tooLong
deriving DecidableEq, Repr

/-- The end of an escape with so many bytes before these. What the long escape begins
with is passed over. -/
def escapeEnd (hasLongEscape : Bool) (counted : Nat) (bytes : List UInt8) : EscapeEnd :=
  if escapeLimit ≤ counted then .tooLong
  else
    match bytes with
    | [] => .cut
    | byte :: rest =>
        if endsEscape byte then .behind (counted + 1)
        else if hasLongEscape && byte == 0x26 && rest.head? == some 0x40 then
          escapeEnd hasLongEscape (counted + 3) (rest.drop 2)
        else escapeEnd hasLongEscape (counted + 1) rest
termination_by bytes.length
decreasing_by
  · simp only [List.length_drop, List.length_cons]
    omega
  · simp only [List.length_cons]
    omega

def letterOf (byte : UInt8) : Char := Char.ofNat byte.toNat

/-- What an escape puts where, by its bytes behind the first. -/
def designation? (encoding : SwitchedEncoding) : List UInt8 → Option (Nat × SetMark)
  | [kind, last] =>
      if kind == 0x24 then some (0, ⟨letterOf last, true⟩)
      else if kind == 0x28 then some (0, ⟨letterOf last, false⟩)
      else if kind == 0x29 then some (1, ⟨letterOf last, false⟩)
      else if kind == 0x2e && encoding.hasThird then some (2, ⟨letterOf last, false⟩)
      else none
  | [kind, place, last] =>
      if kind != 0x24 then none
      else if place == 0x28 then some (0, ⟨letterOf last, true⟩)
      else if place == 0x29 then some (1, ⟨letterOf last, true⟩)
      else none
  | [_, _, escape, kind, last] =>
      if encoding.hasLongEscape && escape == 0x1b && kind == 0x24 && last == 0x42 then
        some (0, ⟨'B', true⟩)
      else none
  | _ => none

def SwitchedEncoding.knows (encoding : SwitchedEncoding) (mark : SetMark) : Bool :=
  mark == asciiMark || encoding.sets.any fun set => set.mark == mark

def escapeFinding (encoding : SwitchedEncoding) (state : SwitchState) (rest : List UInt8) :
    Finding SwitchState :=
  match escapeEnd encoding.hasLongEscape 1 rest with
  | .cut => .cut .incompleteSequence
  | .tooLong => .flawed 0 .illegalSequence
  | .behind length =>
      match designation? encoding (rest.take (length - 1)) with
      | none => .flawed (length - 1) .illegalSequence
      | some (place, mark) =>
          if encoding.knows mark then .characters [] (length - 1) (state.designate place mark)
          else .flawed (length - 1) .illegalSequence

/-- The codes of the Greek set that came later than the escape for it. -/
def laterGreek : List UInt8 := [0xa4, 0xa5, 0xaa]

/-- The Greek character of a byte: the upper half of its set has the bytes of
ASCII, and beyond these come the codes of ASCII. -/
def greekChar? (byte : UInt8) : Option Char :=
  let code := byte ^^^ 0x80
  if laterGreek.contains code then none else (overAscii iso88597Upper).char? code

def thirdPlaceChar? (mark : SetMark) (byte : UInt8) : Option Char :=
  if mark == ⟨'F', false⟩ then greekChar? byte
  else if 0x80 ≤ byte.toNat then none
  else if mark == ⟨'A', false⟩ then some (Char.ofNat (byte.toNat + 0x80))
  else some (Char.ofNat byte.toNat)

/-! ### Reading -/

/-- Whether a byte is the second one of an escape for a set. -/
def beginsDesignation (byte : UInt8) : Bool := [0x24, 0x26, 0x28, 0x29, 0x2e].contains byte

def currentFinding (encoding : SwitchedEncoding) (state : SwitchState) (byte : UInt8)
    (rest : List UInt8) : Finding SwitchState :=
  if state.current == asciiMark then .character (letterOf byte) 0 state
  else
    match encoding.sets.find? fun set => set.mark == state.current with
    | none => .flawed 0 .illegalSequence
    | some set =>
        if set.mark.isWide then
          match rest with
          | [] => .cut .incompleteSequence
          | second :: _ => .ofChars? (set.characters? (pairCode byte second)) 1 state 1
        else .ofChars? (set.characters? byte.toNat) 0 state 0

def escapeByteFinding (encoding : SwitchedEncoding) (state : SwitchState) (rest : List UInt8) :
    Finding SwitchState :=
  match rest with
  | [] => .cut .incompleteSequence
  | second :: others =>
      if beginsDesignation second then escapeFinding encoding state rest
      else if encoding.hasThird && second == 0x4e then
        match others with
        | [] => .cut .incompleteSequence
        | third :: _ => .ofSet? (thirdPlaceChar? state.thirdPlace third) 2 state 2
      else .character '\x1b' 0 { state with isPassing := true }

/-- Reading with switches. The end of a line ends a shift. -/
def switchedReader (encoding : SwitchedEncoding) : ByteReader SwitchState :=
  fun state byte rest =>
    if state.isPassing then
      .character (letterOf byte) 0 { state with isPassing := !endsEscape byte }
    else if byte == 0x1b then escapeByteFinding encoding state rest
    else if byte == 0x0f && encoding.hasSecond then
      .characters [] 0 { state with isShifted := false }
    else if byte == 0x0e && encoding.hasSecond then
      .characters [] 0 { state with isShifted := true }
    else if byte == 0x0a then .character '\n' 0 { state with isShifted := false }
    else if byte.toNat < 0x20 then .character (letterOf byte) 0 state
    else if 0x80 ≤ byte.toNat then .flawed 0 .illegalSequence
    else currentFinding encoding state byte rest

/-! ### The encodings -/

def switchSet (letter : Char) (isWide : Bool) (character? : Nat → Option Char) : SwitchSet :=
  ⟨⟨letter, isWide⟩, fun code => (character? code).map ([·])⟩

def jisX0208Sets : List SwitchSet :=
  [switchSet 'B' true jisX0208.char?, switchSet '@' true jisX0208.char?]

/-- The Roman letters of JIS X 0201. -/
def romanSet : SwitchSet := switchSet 'J' false fun code => romanChar? (UInt8.ofNat code)

/-- The katakana of JIS X 0201, which lie in the upper half of other encodings. -/
def katakanaSet : SwitchSet :=
  switchSet 'I' false fun code => katakana? (UInt8.ofNat (code + 0x80))

def jisX0212Set : SwitchSet := switchSet 'D' true jisX0212.char?

def planeSets (edition : Edition) : List SwitchSet :=
  [⟨⟨if edition == .first then 'O' else 'Q', true⟩, firstPlane? edition⟩,
    switchSet 'P' true jisX0213Second.char?]

/-- A set for single characters only, which says nothing in force. -/
def thirdPlaceSet (letter : Char) : SwitchSet := ⟨⟨letter, false⟩, fun _ => none⟩

/-- An encoding of Japanese with sets besides JIS X 0208. -/
def switchedJapanese (further : List SwitchSet) (hasThird : Bool) : SwitchedEncoding :=
  ⟨jisX0208Sets ++ further, false, hasThird, true⟩

/-- The encoding of Japanese with the planes of JIS X 0213, which has JIS X 0208 in its
later edition only. -/
def switchedPlanes (edition : Edition) : SwitchedEncoding :=
  ⟨jisX0208Sets.take 1 ++ planeSets edition, false, false, true⟩

/-- KS X 1001 in the second place. -/
def switchedKorean : SwitchedEncoding :=
  ⟨[switchSet 'C' true ksX1001.char?], true, false, false⟩

/-- The sets of the second extension for Japanese, which has those of the neighbours
too. -/
def neighbourSets : List SwitchSet :=
  [jisX0212Set, romanSet, switchSet 'C' true ksX1001.char?, switchSet 'A' true gb2312.char?,
    thirdPlaceSet 'A', thirdPlaceSet 'F']

/-! ### Small facts -/

end ProtectionLimits.Text
