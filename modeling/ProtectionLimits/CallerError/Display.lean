import ProtectionLimits.CallerError.Making

/-!
Contract: the texts of errors.

Owns the text of an error that has been made. An error without rules of its own
shows its only argument, or all of them as a tuple. A missing key is shown in its
literal form, a system failure by its number and reason with the files it is about,
an error about syntax with the file and the line, and an error about an encoding
with the character or the bytes it is about. An error has no text if one of the
arguments that the text shows has none.
-/

set_option autoImplicit false

namespace ProtectionLimits.CallerError

def plainText : List Value → Written
  | [] => .ok ""
  | [argument] => argument.displayed
  | arguments => (Value.tuple arguments).written

def keyText : List Value → Written
  | [key] => key.written
  | arguments => plainText arguments

/-- The files that a system failure is about, as its text names them. -/
def fileText : List Value → Written
  | [] => .ok ""
  | .absent :: _ => .ok ""
  | [first, _, .absent] => first.written.map (": " ++ ·)
  | [first, _, second] => do
      let former ← first.written
      let present ← second.written
      pure (": " ++ former ++ " -> " ++ present)
  | first :: _ => first.written.map (": " ++ ·)

def failureText : List Value → Written
  | number :: reason :: files =>
      if describesFailure (number :: reason :: files) then do
        let code ← number.displayed
        let cause ← reason.displayed
        let about ← fileText files
        pure ("[Errno " ++ code ++ "] " ++ cause ++ about)
      else plainText (number :: reason :: files)
  | arguments => plainText arguments

/-! ### Syntax -/

def fileName (path : String) : String :=
  String.ofList ((path.toList.reverse.takeWhile (· != '/')).reverse)

/-- A line as an error about syntax shows it; one that is no position is shown as
minus one. -/
def lineText (line : Int) : String := Decimal.integer (if isPosition line then line else -1)

/-- Where an error about syntax is: the file if its name is a text, and the line if it
is an integer. -/
def placeText (file line : Value) : String :=
  match file, line with
  | .text path, .int line => " (" ++ fileName path ++ ", line " ++ lineText line ++ ")"
  | .text path, _ => " (" ++ fileName path ++ ")"
  | _, .int line => " (line " ++ lineText line ++ ")"
  | _, _ => ""

def syntaxText : List Value → Written
  | [] => .ok Value.absent.display
  | [message, .tuple (file :: line :: _)] =>
      message.displayed.map fun text => text ++ placeText file line
  | message :: _ => message.displayed

/-! ### Encodings -/

/-- A stretch of content: what it is called in the plural, and its first and last
place. -/
def stretchText (what : String) (first last : Int) : String :=
  what ++ " in position " ++ Decimal.integer first ++ "-" ++ Decimal.integer (last - 1)

def itemAt? {Item : Type} (content : List Item) (first last : Int) : Option Item :=
  if 0 ≤ first && last = first + 1 then content[first.toNat]? else none

def charactersText (content : String) (first last : Int) : String :=
  match itemAt? content.toList first last with
  | some character =>
      "character '" ++ String.ofList (Text.hexEscape character.toNat) ++ "' in position " ++
        Decimal.integer first
  | none => stretchText "characters" first last

def bytesText (content : List UInt8) (first last : Int) : String :=
  match itemAt? content first last with
  | some byte =>
      "byte 0x" ++ String.ofList (Text.hex byte.toNat 2) ++ " in position " ++ Decimal.integer first
  | none => stretchText "bytes" first last

def positionOf (argument : Value) : Int := argument.integer?.getD 0

def decodingText : List Value → Written
  | [encoding, .bytes content, first, last, reason] => do
      let name ← encoding.displayed
      let cause ← reason.displayed
      pure ("'" ++ name ++ "' codec can't decode " ++
        bytesText content (positionOf first) (positionOf last) ++ ": " ++ cause)
  | arguments => plainText arguments

def encodingText : List Value → Written
  | [encoding, .text content, first, last, reason] => do
      let name ← encoding.displayed
      let cause ← reason.displayed
      pure ("'" ++ name ++ "' codec can't encode " ++
        charactersText content (positionOf first) (positionOf last) ++ ": " ++ cause)
  | arguments => plainText arguments

def replacementText : List Value → Written
  | [.text content, first, last, reason] => reason.displayed.map fun cause =>
      "can't translate " ++ charactersText content (positionOf first) (positionOf last) ++ ": " ++
        cause
  | arguments => plainText arguments

def ruledText (className : String) (arguments : List Value) : Written :=
  if className == "UnicodeDecodeError" then decodingText arguments
  else if className == "UnicodeEncodeError" then encodingText arguments
  else if className == "UnicodeTranslateError" then replacementText arguments
  else if isKindOf className "KeyError" then keyText arguments
  else if isKindOf className systemFailure then failureText arguments
  else if isKindOf className "SyntaxError" then syntaxText arguments
  else plainText arguments

/-! ### All errors -/

/-- The text of an error. An error of the library about a number shows its message,
which must be a text, and a class without a text fails. -/
def display (error : CallerError) : Except Fault String :=
  if error.className == "BadStr" then .error .displayMissing
  else if error.className == ErrorClass.limitsNumber.name then
    match error.arguments with
    | .text message :: _ => .ok message
    | other :: _ => .error (.displayNotText other.kind)
    | [] => .ok ""
  else (ruledText error.className error.arguments).mapError .unwritable

end ProtectionLimits.CallerError
