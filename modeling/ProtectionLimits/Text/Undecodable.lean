/-!
Contract: why bytes are not text.

Owns the flaws that bytes can have in some encoding, where a flaw stands, and the
refusals of the encodings that look at a text as a whole.
-/

set_option autoImplicit false

namespace ProtectionLimits.Text

/-- What an escape in a text is written with: so many hexadecimal digits follow the
letter. -/
structure EscapeForm where
  letter : Char
  digits : Nat
deriving DecidableEq, Repr

/-- What is wrong with some bytes. -/
inductive DecodingFlaw where
  /-- A byte is none of ASCII. -/
  | beyondAscii
  /-- A byte stands for nothing in its set. -/
  | undefined
  /-- A byte begins no character in UTF-8. -/
  | startByte
  /-- A byte does not go on with a character in UTF-8. -/
  | continuationByte
  /-- Bytes stand for nothing in a set with several bytes to a character. -/
  | illegalSequence
  /-- The bytes end within a character. -/
  | incompleteSequence
  /-- The bytes end within a unit. -/
  | truncated
  /-- What goes on with a character is missing at the end. -/
  | restMissing
  /-- A second half comes first. -/
  | halfMisplaced
  /-- A first half is not followed by a second one. -/
  | halfAlone
  /-- A unit is a half of a character, which this encoding does not know. -/
  | halfAsPoint
  /-- A unit is larger than any code point. -/
  | pointTooLarge
  /-- A shift leads to nothing. -/
  | shiftEmpty
  /-- A shifted part ends within a character. -/
  | shiftCut
  /-- What is left over of a shifted part is not zero. -/
  | shiftPadding
  /-- The text ends within a shifted part. -/
  | shiftOpen
  /-- A character has to be written in a shifted part. -/
  | shiftNeeded
  /-- A backslash is the last character. -/
  | escapeMissing
  /-- An escape has too few digits. -/
  | escapeCut (form : EscapeForm)
  /-- An escape stands for no character. -/
  | escapeTooLarge
  /-- An escape of the long form stands for no character. -/
  | escapeOutside
  /-- An escape by name has no name. -/
  | escapeNameMalformed
  /-- An escape by name has a name that is not known. -/
  | escapeNameUnknown
deriving DecidableEq, Repr

/-- Bytes that cannot be read: the encoding, the bytes and their place, and what is
wrong with them. -/
structure Undecodable where
  encoding : String
  bytes : List UInt8
  place : Nat
  flaw : DecodingFlaw
deriving DecidableEq, Repr

/-- Why an encoding refuses a text as a whole. -/
inductive DecodingRefusal where
  /-- The encoding is there to refuse everything. -/
  | never
  /-- A digit of a code is none. -/
  | codeDigit (given : Char)
  /-- A code ends within a number. -/
  | codeCut
  /-- A code leads beyond the last code point. -/
  | codeTooLarge (point : Nat)
  /-- A part of a domain name has far too many characters. -/
  | labelTooLong
  /-- A part of a domain name is empty or has too many characters. -/
  | labelLength
  /-- A part of a domain name begins like a written one. -/
  | labelMarked
  /-- A part of a domain name has a character that is forbidden. -/
  | labelCharacter (character : Char)
  /-- A part of a domain name mixes directions. -/
  | labelDirections
  /-- A part of a domain name does not begin and end in its direction. -/
  | labelEnds
  /-- A part of a domain name is written otherwise than it has to be. -/
  | labelForm (given settled : List UInt8)
  /-- What an inner encoding refuses. -/
  | inner (encoding : String) (refusal : DecodingRefusal)
deriving DecidableEq, Repr

/-- Why bytes are not text. -/
inductive DecodingFailure where
  | undecodable (failure : Undecodable)
  | refused (refusal : DecodingRefusal)
deriving DecidableEq, Repr

end ProtectionLimits.Text
