import ProtectionLimits.Text.Alphanumeric
import ProtectionLimits.Text.Digit
import ProtectionLimits.Text.Encoding.Punycode
import ProtectionLimits.Text.Lowercase
import ProtectionLimits.Text.Split

/-!
Contract: international domain names.

Owns the reading of names whose labels stand between points. A label with a mark
before it was written in ASCII and has to be written the same way again; all other
labels are ASCII themselves. Before it is written a label is prepared: capital
letters become small, forms of letters become the letters, some characters vanish,
some are refused, and a label does not mix directions. Forms are known up to the
Armenian letters; a mark behind a letter stays apart from it.
-/

set_option autoImplicit false

namespace ProtectionLimits.Text.DomainName

/-! ### Classes of characters -/

def within (ranges : List (Nat × Nat)) (character : Char) : Bool :=
  ranges.any fun range => range.1 ≤ character.toNat && character.toNat ≤ range.2

def vanishing : List (Nat × Nat) :=
  [(0xad, 0xad), (0x34f, 0x34f), (0x1806, 0x1806), (0x180b, 0x180d), (0x200b, 0x200d),
    (0x2060, 0x2060), (0xfe00, 0xfe0f), (0xfeff, 0xfeff)]

def forbidden : List (Nat × Nat) :=
  [(0x80, 0x9f), (0x340, 0x341), (0x6dd, 0x6dd), (0x70f, 0x70f), (0x1680, 0x1680),
    (0x180e, 0x180e), (0x2000, 0x200f), (0x2028, 0x202f), (0x205f, 0x2063), (0x206a, 0x206f),
    (0x2ff0, 0x2ffb), (0x3000, 0x3000), (0xe000, 0xf8ff), (0xfdd0, 0xfdef), (0xfeff, 0xfeff),
    (0xfff9, 0xffff), (0x1d173, 0x1d17a), (0xe0001, 0xe0001), (0xe0020, 0xe007f),
    (0xf0000, 0x10ffff)]

/-- The letters that are written from right to left. -/
def leftward : List (Nat × Nat) :=
  [(0x5be, 0x5be), (0x5c0, 0x5c0), (0x5c3, 0x5c3), (0x5d0, 0x5ea), (0x5f0, 0x5f4), (0x61b, 0x61b),
    (0x61f, 0x61f), (0x621, 0x63a), (0x640, 0x64a), (0x66d, 0x66f), (0x671, 0x6d5), (0x6e5, 0x6e6),
    (0x6fa, 0x6fe), (0x700, 0x70d), (0x710, 0x710), (0x712, 0x72c), (0x780, 0x7a5),
    (0x7b1, 0x7b1), (0xfb1d, 0xfb1d), (0xfb1f, 0xfb28), (0xfb2a, 0xfb36), (0xfb38, 0xfb3c),
    (0xfb3e, 0xfb3e), (0xfb40, 0xfb41), (0xfb43, 0xfb44), (0xfb46, 0xfbb1), (0xfbd3, 0xfd3d),
    (0xfd50, 0xfd8f), (0xfd92, 0xfdc7), (0xfdf0, 0xfdfc), (0xfe70, 0xfe74), (0xfe76, 0xfefc)]

/-- Whether a character is a letter that is written from left to right. -/
def isRightward (character : Char) : Bool :=
  isAlphanumeric character && (digitValue? character).isNone && !within leftward character

/-! ### Preparing -/

/-- Characters up to the Armenian ones that are written as others in a label: forms
of letters, fractions, raised figures and marks that stand alone. -/
def compatibleForms : List (Nat × String) :=
  [(0xa0, " "), (0xa8, " \u0308"), (0xaa, "a"), (0xaf, " \u0304"), (0xb2, "2"), (0xb3, "3"),
    (0xb4, " \u0301"), (0xb5, "μ"), (0xb8, " \u0327"), (0xb9, "1"), (0xba, "o"), (0xbc, "1⁄4"),
    (0xbd, "1⁄2"), (0xbe, "3⁄4"), (0xdf, "ss"), (0x132, "ij"), (0x133, "ij"), (0x13f, "l·"),
    (0x140, "l·"), (0x149, "ʼn"), (0x17f, "s"), (0x1c4, "dž"), (0x1c5, "dž"), (0x1c6, "dž"),
    (0x1c7, "lj"), (0x1c8, "lj"), (0x1c9, "lj"), (0x1ca, "nj"), (0x1cb, "nj"), (0x1cc, "nj"),
    (0x1f1, "dz"), (0x1f2, "dz"), (0x1f3, "dz"), (0x2b0, "h"), (0x2b1, "ɦ"), (0x2b2, "j"),
    (0x2b3, "r"), (0x2b4, "ɹ"), (0x2b5, "ɻ"), (0x2b6, "ʁ"), (0x2b7, "w"), (0x2b8, "y"),
    (0x2d8, " \u0306"), (0x2d9, " \u0307"), (0x2da, " \u030a"), (0x2db, " \u0328"),
    (0x2dc, " \u0303"), (0x2dd, " \u030b"), (0x2e0, "ɣ"), (0x2e1, "l"), (0x2e2, "s"), (0x2e3, "x"),
    (0x2e4, "ʕ"), (0x340, "\u0300"), (0x341, "\u0301"), (0x343, "\u0313"), (0x344, "\u0308\u0301"),
    (0x345, "ι"), (0x374, "ʹ"), (0x37a, " ι"), (0x37e, ";"), (0x384, " \u0301"),
    (0x385, " \u0308\u0301"), (0x387, "·"), (0x3c2, "σ"), (0x3d0, "β"), (0x3d1, "θ"), (0x3d2, "υ"),
    (0x3d3, "ύ"), (0x3d4, "ϋ"), (0x3d5, "φ"), (0x3d6, "π"), (0x3f0, "κ"), (0x3f1, "ρ"),
    (0x3f2, "σ"), (0x3f5, "ε"), (0x3f9, "σ"), (0x587, "եւ")]

/-- What a character is written as in a label: another form, or else its small
form. -/
def folded (character : Char) : List Char :=
  match compatibleForms.lookup character.toNat with
  | some form => form.toList
  | none => lowercase [character]

def checkDirection (label : List Char) : Except DecodingRefusal Unit :=
  if !label.any (within leftward) then .ok ()
  else if label.any isRightward then .error .labelDirections
  else if label.head?.any (within leftward) && label.getLast?.any (within leftward) then .ok ()
  else .error .labelEnds

def prepared (label : List Char) : Except DecodingRefusal (List Char) := do
  let label := (label.filter fun character => !within vanishing character).flatMap folded
  match label.find? (within forbidden) with
  | some character => .error (.labelCharacter character)
  | none => do
      checkDirection label
      pure label

/-! ### Writing -/

def isAscii (label : List Char) : Bool := label.all fun character => character.toNat < 0x80

def writtenMark : List Char := "xn--".toList

def sized (label : List Char) : Except DecodingRefusal (List Char) :=
  if !label.isEmpty && label.length < 64 then .ok label else .error .labelLength

def written (label : List Char) : Except DecodingRefusal (List Char) := do
  if isAscii label then sized label
  else
    let label ← prepared label
    if isAscii label then sized label
    else if writtenMark.isPrefixOf label then .error .labelMarked
    else sized (writtenMark ++ Punycode.write label)

/-! ### Reading -/

def labelLimit : Nat := 1024

def asciiBytes (text : List Char) : List UInt8 := text.map fun character => character.toUInt8

/-- A label that was written in ASCII. The mark has been taken off, but the whole is
needed to see that writing gives it back. -/
def readMarked (label rest : List UInt8) : Except DecodingFailure (List Char) :=
  match Punycode.read rest with
  | .error (.refused refusal) => .error (.refused (.inner "punycode" refusal))
  | .error failure => .error failure
  | .ok text =>
      match written text with
      | .error refusal => .error (.refused refusal)
      | .ok again => do
          let given ← Punycode.readAscii label
          if given.map Char.toLower == again then pure text
          else .error (.refused (.labelForm label (asciiBytes again)))

def readLabel (label : List UInt8) : Except DecodingFailure (List Char) :=
  if labelLimit < label.length then .error (.refused .labelTooLong)
  else if (asciiBytes writtenMark).isPrefixOf label then
    readMarked label (label.drop writtenMark.length)
  else Punycode.readAscii label

def hasMark : List UInt8 → Bool
  | [] => false
  | byte :: rest => (asciiBytes writtenMark).isPrefixOf (byte :: rest) || hasMark rest

/-- Labels with points between them. A last label that is empty only ends the name. -/
def readLabels : List (List UInt8) → Except DecodingFailure (List Char)
  | [] => .ok []
  | [last] => if last.isEmpty then .ok [] else readLabel last
  | label :: rest => do
      let first ← readLabel label
      let others ← readLabels rest
      pure (first ++ '.' :: others)

def read (bytes : List UInt8) : Except DecodingFailure (List Char) :=
  match hasMark bytes, Punycode.readAscii bytes with
  | false, .ok text => .ok text
  | _, _ => readLabels (pieces 0x2e bytes)

/-! ### Small facts -/

end ProtectionLimits.Text.DomainName
