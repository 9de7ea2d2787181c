import ProtectionLimits.Text.Printable

/-!
Contract: quoted text and quoted bytes.

Owns the choice of the quote, the short escapes, and the hexadecimal escapes of
the characters that have no visible form. A text is set in single quotes unless
it holds a single quote and no double quote. Which characters are visible is
`Text.Printable`'s to say.
-/

set_option autoImplicit false

namespace ProtectionLimits.Text

def singleQuote : Char := '\x27'

def doubleQuote : Char := '\x22'

/-- The quote around a text: double only when that saves an escape. -/
def quoteFor (characters : List Char) : Char :=
  if characters.contains singleQuote && !characters.contains doubleQuote then doubleQuote
  else singleQuote

/-- A hexadecimal digit, in lower case. -/
def hexDigit (value : Nat) : Char :=
  if value < 10 then Char.ofNat (0x30 + value) else Char.ofNat (0x57 + value)

def hex (number : Nat) : Nat → List Char
  | 0 => []
  | width + 1 => hex (number / 16) width ++ [hexDigit (number % 16)]

/-- All hexadecimal digits of a number, without leading zeros. -/
def hexDigits (number : Nat) : List Char :=
  if number < 16 then [hexDigit number]
  else hexDigits (number / 16) ++ [hexDigit (number % 16)]
termination_by number

/-- The shortest of the three hexadecimal escapes that has room for the point. -/
def hexEscape (point : Nat) : List Char :=
  if point ≤ 0xff then '\\' :: 'x' :: hex point 2
  else if point ≤ 0xffff then '\\' :: 'u' :: hex point 4
  else '\\' :: 'U' :: hex point 8

/-- The characters that have an escape of their own within the given quotes. -/
def shortEscape? (quote character : Char) : Option (List Char) :=
  if character == quote || character == '\\' then some ['\\', character]
  else if character == '\n' then some ['\\', 'n']
  else if character == '\r' then some ['\\', 'r']
  else if character == '\t' then some ['\\', 't']
  else none

def escaped (quote character : Char) : List Char :=
  match shortEscape? quote character with
  | some escape => escape
  | none => if isPrintable character then [character] else hexEscape character.toNat

def quotedCharacters (characters : List Char) : List Char :=
  let quote := quoteFor characters
  quote :: (characters.flatMap (escaped quote) ++ [quote])

def quoted (text : String) : String :=
  String.ofList (quotedCharacters text.toList)

/-- One byte of quoted bytes; only visible ASCII stands for itself. -/
def escapedByte (quote : Char) (byte : UInt8) : List Char :=
  let character := Char.ofNat byte.toNat
  match shortEscape? quote character with
  | some escape => escape
  | none =>
      if 0x20 ≤ byte.toNat && byte.toNat < 0x7f then [character] else hexEscape byte.toNat

/-- The quoted form of bytes, marked by a leading letter. -/
def quotedBytes (bytes : List UInt8) : String :=
  let quote := quoteFor (bytes.map fun byte => Char.ofNat byte.toNat)
  String.ofList ('b' :: quote :: (bytes.flatMap (escapedByte quote) ++ [quote]))

end ProtectionLimits.Text
