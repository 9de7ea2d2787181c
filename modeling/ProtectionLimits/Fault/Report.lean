import ProtectionLimits.CallerError.Display
import ProtectionLimits.Exhibit.Item

/-!
Contract: how a failure is worded.

Owns the message templates, their arguments, and the report of a failure: the
name of its error class, its message, and what a number error carries. The
templates of the library go through a translator before they are filled. When
the translated template cannot be filled, that is what is reported instead of
the failure itself. The messages of standard errors are never translated.
-/

set_option autoImplicit false

namespace ProtectionLimits

open Text.Template (Failure Reader)

/-- The messages that can be translated. -/
inductive Wording where
  | settingKind
  | settingNotInteger
  | settingOutOfRange
  | limitUnmanaged
  | stateKind
  | valueKind
  | limitIndex
  | environmentKind
  | settingsKind
  | settingsBase
  | optionFixed
  | optionUndeletable
  | optionFlagKind
  | optionLevelKind
  | levelName
  | levelKind
  | option
  | optionalArgument
deriving DecidableEq, Repr

def Wording.template : Wording → String
  | settingKind => "invalid type \x7b!r\x7d for a limit value, must be an int or a str"
  | settingNotInteger => "invalid setting \x7b!r\x7d for property \x7b!r\x7d: not an integer"
  | settingOutOfRange => "invalid setting \x7b!r\x7d for property \x7b!r\x7d: out of range"
  | limitUnmanaged => "\x7b!r\x7d is not a limit managed by \x7b!r\x7d"
  | stateKind => "invalid type \x7b!r\x7d for state, must be a \x7b!r\x7d"
  | valueKind => "invalid type \x7b!r\x7d for a limit value, must be an int"
  | limitIndex => "invalid limit index \x7b!r\x7d"
  | environmentKind => "invalid type \x7b!r\x7d for environ, must be a mapping"
  | settingsKind => "invalid type \x7b!r\x7d for settings, must be a mapping"
  | settingsBase => "expected a LimitSettings instance for 'settings', got \x7b!r\x7d'"
  | optionFixed => "can't change \x7b\x7d"
  | optionUndeletable => "can't delete \x7b\x7d"
  | optionFlagKind => "invalid type \x7b!r\x7d for \x7b\x7d, must be of type \x7b!r\x7d"
  | optionLevelKind => "invalid type \x7b!r\x7d for \x7b\x7d, must be None, a str or an int"
  | levelName => "\x7b!r\x7d is not a valid loglevel"
  | levelKind => "invalid type \x7b!r\x7d for a loglevel"
  | option => "option \x7b!r\x7d"
  | optionalArgument => "optional argument \x7b!r\x7d"

/-! ### Arguments of messages -/

def Exhibit.shownLiteral (exhibit : Exhibit) : Except Failure String :=
  exhibit.written.mapError .unwritable

/-- The display form of an exhibit that has it itself, in a message. -/
def Exhibit.shownDisplay (exhibit : Exhibit) : Except Failure String :=
  exhibit.displayed.mapError .unwritable

/-- How exhibits are read that have their display form themselves. -/
def Exhibit.plainReader : Reader Exhibit where
  follow := follow
  literal := shownLiteral
  display := shownDisplay
  laidOut exhibit spelling :=
    if spelling.isEmpty then exhibit.shownDisplay else exhibit.laidOut spelling

/-- What looking messages up gives: the message in the language in force, or why the search
for it fails. -/
abbrev Translator := String → Written

def Translator.identity : Translator := .ok

def Wording.lookUp (translate : Translator) (wording : Wording) : Except Failure String :=
  (translate wording.template).mapError .unwritable

def OptionLabel.display (translate : Translator) (label : OptionLabel) :
    Except Failure String := do
  let wording := if label.owner.isRewritable then Wording.option else Wording.optionalArgument
  let template ← wording.lookUp translate
  Text.fill Exhibit.plainReader template [.text label.field.name]

def Exhibit.displayedIn (translate : Translator) : Exhibit → Except Failure String
  | option label => label.display translate
  | other => other.shownDisplay

def Exhibit.reader (translate : Translator) : Reader Exhibit where
  follow := follow
  literal := shownLiteral
  display := displayedIn translate
  laidOut exhibit spelling :=
    if spelling.isEmpty then exhibit.displayedIn translate else exhibit.laidOut spelling

def Kind.exhibit (kind : Kind) : Exhibit := .kind (Class.named kind.name)

namespace Fault

/-- The wording of a failure and the arguments of its message, if it is one of
the failures with translated messages. -/
def worded? : Fault → Option (Wording × List Exhibit)
  | settingKind given => some (.settingKind, [given.exhibit])
  | settingNotInteger setting property =>
      some (.settingNotInteger, [.text setting, .value property])
  | settingOutOfRange setting property =>
      some (.settingOutOfRange, [.text setting, .value property])
  | valueKind given => some (.valueKind, [given.exhibit])
  | stateKind given => some (.stateKind, [given.exhibit, .kind Class.states])
  | limitIndex index => some (.limitIndex, [.value index])
  | limitUnmanaged target registry => some (.limitUnmanaged, [target.exhibit, registry])
  | environmentKind given => some (.environmentKind, [given.exhibit])
  | settingsKind given => some (.settingsKind, [given.exhibit])
  | settingsBase given => some (.settingsBase, [given])
  | optionFixed label => some (.optionFixed, [.option label])
  | optionUndeletable label => some (.optionUndeletable, [.option label])
  | optionFlagKind given label =>
      some (.optionFlagKind, [given.exhibit, .option label, Kind.bool.exhibit])
  | optionLevelKind given label => some (.optionLevelKind, [given.exhibit, .option label])
  | levelName name => some (.levelName, [.text name])
  | levelKind given => some (.levelKind, [given.exhibit])
  | _ => none

end Fault

/-- A character in the message about a template: a visible one as it is, any other
by its number. Numbers from `last` on are not visible. -/
def Text.Template.shownCharacter (last : Nat) (character : Char) : String :=
  if 0x20 < character.toNat && character.toNat < last then character.toString
  else "\\x" ++ String.ofList (hexDigits character.toNat)

/-- The character that separates digit groups, as a text. -/
def Grouping.shown : Grouping → String
  | comma => ","
  | underscore => "_"

def Layout.Failure.message : Layout.Failure → String
  | countTooLarge => "Too many decimal digits in format string"
  | precisionMissing => "Format specifier missing precision"
  | precisionTooLarge => "precision too big"
  | precisionRefused => "Precision not allowed in integer format specifier"
  | twoGroupings => "Cannot specify both ',' and '_'."
  | groupingRefused grouping style =>
      "Cannot specify '" ++ grouping.shown ++ "' with '" ++
        Text.Template.shownCharacter 0x80 style ++ "'."
  | malformed layout kind =>
      "Invalid format specifier '" ++ layout ++ "' for object of type '" ++ kind ++ "'"
  | styleUnknown style kind =>
      "Unknown format code '" ++ Text.Template.shownCharacter 0x80 style ++
        "' for object of type '" ++ kind ++ "'"
  | signRefused => "Sign not allowed in string format specifier"
  | blankRefused => "Space not allowed in string format specifier"
  | zeroMarkRefused what => "Negative zero coercion (z) not allowed in " ++ what
  | alternateRefused => "Alternate form (#) not allowed in string format specifier"
  | partingRefused => "'=' alignment not allowed in string format specifier"
  | signOfCharacter => "Sign not allowed with integer format specifier 'c'"
  | alternateOfCharacter => "Alternate form (#) not allowed with integer format specifier 'c'"
  | characterOutside => "%c arg not in range(0x110000)"
  | characterTooLarge => "Python int too large to convert to C long"
  | numberTooLarge => "int too large to convert to float"
  | numeralTooLong => Decimal.tooLongMessage
  | tooWide => ""

/-- The message of a key where only a position is taken. -/
def Text.Template.refusedKey (kind : String) : String :=
  if kind == "str" then "string indices must be integers, not 'str'"
  else (if kind == "bytes" then "byte" else kind) ++
    " indices must be integers or slices, not str"

/-- What is indexed, in the message of a position outside it. -/
def Text.Template.indexed (kind : String) : String :=
  if kind == "str" then "string index"
  else if kind == "bytes" then "index"
  else kind ++ " index"

def Text.Template.Failure.message : Failure → String
  | loneOpening => "Single '\x7b' encountered in format string"
  | loneClosing => "Single '\x7d' encountered in format string"
  | openingInName => "unexpected '\x7b' in field name"
  | fieldNotClosed => "expected '\x7d' before end of string"
  | layoutNotClosed => "unmatched '\x7b' in format spec"
  | conversionMissing => "end of string while looking for conversion specifier"
  | conversionNotEnded => "expected ':' after conversion specifier"
  | conversionUnknown conversion =>
      "Unknown conversion specifier " ++ shownCharacter 0x7f conversion
  | automaticAfterManual =>
      "cannot switch from manual field specification to automatic field numbering"
  | manualAfterAutomatic =>
      "cannot switch from automatic field numbering to manual field specification"
  | nestedTooDeep => "Max string recursion exceeded"
  | partEmpty => "Empty attribute in format string"
  | indexNotClosed => "Missing ']' in format string"
  | strayBehindIndex => "Only '.' or '[' may follow ']' in format field specifier"
  | argumentMissing position =>
      "Replacement index " ++ Decimal.natural position ++
        " out of range for positional args tuple"
  | nameMissing name => Text.quoted name
  | partMissing kind part => "'" ++ kind ++ "' object has no attribute '" ++ part ++ "'"
  | classPartMissing className part =>
      "type object '" ++ className ++ "' has no attribute '" ++ part ++ "'"
  | memberMissing name => name
  | referencesMissing => "This object has no __weakref__"
  | withoutItems kind => "'" ++ kind ++ "' object is not subscriptable"
  | classWithoutItems className => "type '" ++ className ++ "' is not subscriptable"
  | parametricWithoutItems literal => literal ++ " is not a generic class"
  | parametricTwice literal => "Cannot subscript already-subscripted " ++ literal
  | parametersRefused className =>
      "Parameters to " ++ className ++
        "[...] must all be type variables or parameter specification variables."
  | keyRefused kind => refusedKey kind
  | positionOutside kind => indexed kind ++ " out of range"
  | keyMissing key => key
  | layoutUnsupported kind => "unsupported format string passed to " ++ kind ++ ".__format__"
  | layout failure => failure.message
  | unwritable reason => reason.message

def Text.DecodingFlaw.message : Text.DecodingFlaw → String
  | beyondAscii => "ordinal not in range(128)"
  | undefined => "character maps to <undefined>"
  | startByte => "invalid start byte"
  | continuationByte => "invalid continuation byte"
  | illegalSequence => "illegal multibyte sequence"
  | incompleteSequence => "incomplete multibyte sequence"
  | truncated => "truncated data"
  | restMissing => "unexpected end of data"
  | halfMisplaced => "illegal encoding"
  | halfAlone => "illegal UTF-16 surrogate"
  | halfAsPoint => "code point in surrogate code point range(0xd800, 0xe000)"
  | pointTooLarge => "code point not in range(0x110000)"
  | shiftEmpty => "ill-formed sequence"
  | shiftCut => "partial character in shift sequence"
  | shiftPadding => "non-zero padding bits in shift sequence"
  | shiftOpen => "unterminated shift sequence"
  | shiftNeeded => "unexpected special character"
  | escapeMissing => "\\ at end of string"
  | escapeCut form =>
      "truncated \\" ++ String.ofList (form.letter :: List.replicate form.digits 'X') ++ " escape"
  | escapeTooLarge => "illegal Unicode character"
  | escapeOutside => "\\Uxxxxxxxx out of range"
  | escapeNameMalformed => "malformed \\N character escape"
  | escapeNameUnknown => "unknown Unicode character name"

def Text.refusalMessage (encoding reason : String) : String :=
  "decoding with '" ++ encoding ++ "' codec failed (UnicodeError: " ++ reason ++ ")"

/-- Why an encoding refuses a text, in words. -/
def Text.DecodingRefusal.message : Text.DecodingRefusal → String
  | never => "undefined encoding"
  | codeDigit given => "Invalid extended code point '" ++ given.toString ++ "'"
  | codeCut => "incomplete punicode string"
  | codeTooLarge point => "Invalid character U+" ++ String.ofList (Text.hexDigits point)
  | labelTooLong => "label way too long"
  | labelLength => "label empty or too long"
  | labelMarked => "Label starts with ACE prefix"
  | labelCharacter character => "Invalid character " ++ Text.quoted character.toString
  | labelDirections => "Violation of BIDI requirement 2"
  | labelEnds => "Violation of BIDI requirement 3"
  | labelForm given settled =>
      "('IDNA does not round-trip', " ++ Text.quotedBytes given ++ ", "
        ++ Text.quotedBytes settled ++ ")"
  | inner encoding refusal => Text.refusalMessage encoding refusal.message

/-- The message of bytes that cannot be read. -/
def Text.Undecodable.message (failure : Text.Undecodable) : String :=
  let head := "'" ++ failure.encoding ++ "' codec can't decode "
  let place := Decimal.natural failure.place
  match failure.bytes with
  | [byte] =>
      head ++ "byte 0x" ++ String.ofList (hex byte.toNat 2) ++ " in position " ++ place ++ ": " ++
        failure.flaw.message
  | bytes =>
      head ++ "bytes in position " ++ place ++ "-" ++
        Decimal.natural (failure.place + bytes.length - 1) ++ ": " ++ failure.flaw.message

def Translation.PluralFault.message : PluralFault → String
  | tooLong => "plural form expression is too long"
  | tooComplex => "plural form expression is too complex"
  | unbalanced => "unbalanced parenthesis in plural form"
  | invalidToken text => "invalid token in plural form: " ++ String.ofList text
  | unexpectedToken text => "unexpected token in plural form: " ++ String.ofList text
  | unexpectedEnd => "unexpected end of plural form"
  | misplacedNegation => "invalid syntax (<string>, line 5)"
  | conditionCut => "expected 'else' after 'if' expression (<string>, line 5)"

def CatalogFault.message : CatalogFault → String
  | fieldCut => "list index out of range"
  | pluralRule fault => fault.message
  | encodingUnknown name => "unknown encoding: " ++ name
  | encodingNotText name =>
      "'" ++ name ++ "' is not a text encoding; use codecs.decode() to handle arbitrary codecs"
  | encodingBroken => "embedded null character"
  | undecodable failure => failure.message
  | refused _ (.labelForm given settled) => (Text.DecodingRefusal.labelForm given settled).message
  | refused encoding refusal => Text.refusalMessage encoding refusal.message
  | formsExcess => "too many values to unpack (expected 2)"

/-- A callee as messages about its arguments name it. -/
def ArgumentRefusal.calleeText (callee : Option String) : String :=
  match callee with
  | some callee => callee ++ "() "
  | none => ""

/-- How many arguments are taken, in the message of too few or too many. -/
def ArgumentRefusal.countText (least most given : Nat) : String :=
  let (bound, taken) :=
    if least = most then ("exactly ", least)
    else if given < least then ("at least ", least)
    else ("at most ", most)
  bound ++ Decimal.natural taken ++ (if taken = 1 then " argument" else " arguments")

/-- The message of an error that cannot be made. -/
def ArgumentRefusal.message : ArgumentRefusal → String
  | count callee least most given =>
      (if callee.isSome then calleeText callee else "function ") ++ "takes " ++
        countText least most given ++ " (" ++ Decimal.natural given ++ " given)"
  | notText callee place given =>
      calleeText callee ++ "argument " ++ Decimal.natural place ++ " must be str, not " ++
        (if given = .absent then Value.absent.display else given.name)
  | notInteger given => "'" ++ given.name ++ "' object cannot be interpreted as an integer"
  | notBytes given => "a bytes-like object is required, not '" ++ given.name ++ "'"
  | notIterable given => "'" ++ given.name ++ "' object is not iterable"
  | positionTooLarge => "Python int too large to convert to C ssize_t"
  | writtenTooLarge => "cannot fit 'int' into an index-sized integer"
  | endIncomplete => "end_offset must be provided when end_lineno is provided"
  | notSequence => "second argument (exceptions) must be a sequence"
  | noErrors => "second argument (exceptions) must be a non-empty sequence"
  | notError place =>
      "Item " ++ Decimal.natural place ++ " of second argument (exceptions) is not an exception"

namespace Fault

/-- The message of a failure that is never translated. -/
def plainMessage : Fault → String
  | variableNameKind given => "str expected, not " ++ given.name
  | attributeMissing given part =>
      "'" ++ given.name ++ "' object has no attribute '" ++ part ++ "'"
  | classAttributeMissing className part =>
      "type object '" ++ className ++ "' has no attribute '" ++ part ++ "'"
  | notIterable given => "'" ++ given.name ++ "' object is not iterable"
  | unkeyable given => "unhashable type: '" ++ given.name ++ "'"
  | notComparable relation left right =>
      "'" ++ relation ++ "' not supported between instances of '" ++ left.name ++ "' and '" ++
        right.name ++ "'"
  | integerPartMissing number => match number with
    | .infinite _ => "cannot convert float infinity to integer"
    | _ => "cannot convert float NaN to integer"
  | notReal given => "%d format: a real number is required, not " ++ given.name
  | positionOutside sequence =>
      if sequence.isEmpty then "index out of range" else sequence ++ " index out of range"
  | positionTooLarge => "cannot fit 'int' into an index-sized integer"
  | notCallable given => "'" ++ given.name ++ "' object is not callable"
  | withoutItems given => "'" ++ given.name ++ "' object is not subscriptable"
  | itemsFixed given => "'" ++ given.name ++ "' object does not support item assignment"
  | withoutSize given => "object of type '" ++ given.name ++ "' has no len()"
  | notSearchable given => "argument of type '" ++ given.name ++ "' is not iterable"
  | notInText given => "'in <string>' requires string as left operand, not " ++ given.name
  | notInBytes given => "a bytes-like object is required, not '" ++ given.name ++ "'"
  | notByte => "byte must be in range(0, 256)"
  | withoutScope given =>
      "'" ++ given.name ++ "' object does not support the context manager protocol"
  | entryKind place =>
      "cannot convert dictionary update sequence element #" ++ Decimal.natural place ++
        " to a sequence"
  | entryLength place length =>
      "dictionary update sequence element #" ++ Decimal.natural place ++ " has length " ++
        Decimal.natural length ++ "; 2 is required"
  | keptKind given => "__dict__ must be set to a dictionary, not a '" ++ given.name ++ "'"
  | classKind given => "__class__ must be set to a class, not '" ++ given.name ++ "' object"
  | classTaken => "can't delete __class__ attribute"
  | partFixed className part =>
      "attribute '" ++ part ++ "' of '" ++ className ++ "' objects is not writable"
  | nameUnknown name => name.literal
  | slotEmpty name => "no slot " ++ name
  | keywordUnexpected callee keyword =>
      callee ++ " got an unexpected keyword argument '" ++ keyword ++ "'"
  | argumentRepeated callee argument =>
      callee ++ " got multiple values for argument '" ++ argument ++ "'"
  | keywordRepeated callee keyword =>
      callee ++ " got multiple values for keyword argument '" ++ keyword ++ "'"
  | argumentsRefused callee => callee ++ " takes no arguments"
  | argumentsExcess callee least most given =>
      callee ++ " takes from " ++ Decimal.natural least ++ " to " ++ Decimal.natural most ++
        " positional arguments but " ++ Decimal.natural given ++ " were given"
  | argumentMissing callee argument =>
      callee ++ " missing 1 required positional argument: '" ++ argument ++ "'"
  | sourceAbstract =>
      "Can't instantiate abstract class ConfigLoader with abstract method get_property"
  | catalogMissing => "[Errno 2] No translation file found for domain: 'xmllimits'"
  | catalog fault => fault.message
  | streamClosed => "I/O operation on closed file"
  | streamFull => "disk full"
  | interrupted => "stop"
  | unwritable reason => reason.message
  | displayMissing => "no text"
  | displayNotText given => "__str__ returned non-string (type " ++ given.name ++ ")"
  | callerArguments refusal => refusal.message
  | caller error => match error.display with
    | .ok text => text
    | .error _ => ""
  | template failure => failure.message
  | _ => ""

/-- The message of a failure, unless its template cannot be found in the language in force or
cannot be filled, or something that it shows has no text. -/
def message (translate : Translator) (fault : Fault) : Except Failure String :=
  match fault.worded?, fault with
  | some (wording, exhibits), _ => do
      let template ← wording.lookUp translate
      Text.fill (Exhibit.reader translate) template exhibits
  | none, stateUnknown number =>
      (number.written.mapError .unwritable).map fun text => text ++ " is not a valid State"
  | none, other => .ok other.plainMessage

/-- What is reported of a failure. -/
structure Report where
  errorClass : ErrorClass
  message : String
  number : Option (Value × Value)

def report (translate : Translator) (fault : Fault) : Report :=
  match fault.message translate with
  | .ok message => ⟨fault.errorClass, message, fault.number?⟩
  | .error failure => ⟨failure.errorClass, failure.message, none⟩

/-- Why something has no text, if asking for it fails. None of the failures of that is ever
translated. -/
def unwritten (fault : Fault) : Unwritable :=
  let reported := fault.report .identity
  ⟨reported.errorClass.name, reported.message⟩

@[simp] theorem unwritten_unwritable (reason : Unwritable) :
    (unwritable reason).unwritten = reason := by
  have reported : (unwritable reason).report .identity =
      ⟨.ofName reason.className, reason.message, none⟩ := rfl
  rw [unwritten, reported, ErrorClass.name_ofName]

/-- A reason that has become a failure is still the same reason. -/
theorem mapError_unwritten (text : Written) :
    (text.mapError unwritable).mapError unwritten = text := by
  cases text with
  | error reason => exact congrArg Except.error (unwritten_unwritable reason)
  | ok text => rfl

end Fault

end ProtectionLimits
