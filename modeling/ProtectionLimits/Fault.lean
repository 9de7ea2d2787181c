import ProtectionLimits.CallerError
import ProtectionLimits.Exhibit
import ProtectionLimits.Text.Template
import ProtectionLimits.Translation.Catalog

/-!
Contract: everything that can go wrong, by cause.

Owns the causes of failure and the error class of each. A cause holds what a
message needs to say and nothing of how it is said, so an operation that fails
is the same operation in every language. The wording is `Fault.Report`'s.
-/

set_option autoImplicit false

namespace ProtectionLimits

/-- What a caller names in place of a limit of the table. -/
inductive Target where
  | item (limit : Limit)
  | stranger (limit : Limit)
  | value (content : Value)

/-- What was named as messages show it. -/
def Target.exhibit : Target → Exhibit
  | item limit => .limit limit
  | stranger limit => .limit limit
  | value content => .value content

/-- A registry as text, by the text of how secure processing was asked for. -/
def registryText (secure : String) : String := "LimitRegistry(secure_processing=" ++ secure ++ ")"

/-- A registry as text: how secure processing was asked for, if that has a text. -/
def registryWritten (secure : Value) : Written := secure.written.map registryText

/-- The causes of failure. -/
inductive Fault where
  /-- A setting is neither an integer nor a text. -/
  | settingKind (given : Kind)
  /-- A text is not the numeral of an integer. -/
  | settingNotInteger (setting : String) (property : Value)
  /-- A numeral is out of range. -/
  | settingOutOfRange (setting : String) (property : Value)
  /-- A value for a limit is not an integer. -/
  | valueKind (given : Kind)
  /-- Something else stands where a state belongs. -/
  | stateKind (given : Kind)
  /-- An index addresses no limit. -/
  | limitIndex (index : Value)
  /-- The registry does not manage what was named. -/
  | limitUnmanaged (target : Target) (registry : Exhibit)
  /-- The environment of a source is not a mapping. -/
  | environmentKind (given : Kind)
  /-- The settings of a source are not a mapping. -/
  | settingsKind (given : Kind)
  /-- The base of new settings is something else. -/
  | settingsBase (given : Exhibit)
  /-- An option that can be set once has been set. -/
  | optionFixed (label : OptionLabel)
  /-- Options cannot be deleted. -/
  | optionUndeletable (label : OptionLabel)
  /-- An option that takes a truth value was given something else. -/
  | optionFlagKind (given : Kind) (label : OptionLabel)
  /-- An option that takes a level was given something else. -/
  | optionLevelKind (given : Kind) (label : OptionLabel)
  /-- A text is not the name of a level. -/
  | levelName (name : String)
  /-- A level is neither an integer nor a text. -/
  | levelKind (given : Kind)
  /-- The name of an environment variable is not a text. -/
  | variableNameKind (given : Kind)
  /-- A value lacks a part. -/
  | attributeMissing (given : Kind) (part : String)
  /-- A class lacks a part. -/
  | classAttributeMissing (className part : String)
  /-- A value has no items. -/
  | notIterable (given : Kind)
  /-- A value cannot serve as a key. -/
  | unkeyable (given : Kind)
  /-- Two values have no order. -/
  | notComparable (relation : String) (left right : Kind)
  /-- A number has no integer part. -/
  | integerPartMissing (number : Number)
  /-- A value is no real number. -/
  | notReal (given : Kind)
  /-- A position lies outside a sequence. -/
  | positionOutside (sequence : String)
  /-- A position has too many digits. -/
  | positionTooLarge
  /-- Something cannot be called. -/
  | notCallable (given : Kind)
  /-- Something has no items that can be asked for. -/
  | withoutItems (given : Kind)
  /-- The items of something cannot be replaced. -/
  | itemsFixed (given : Kind)
  /-- Something has no size. -/
  | withoutSize (given : Kind)
  /-- Nothing can be looked for in something. -/
  | notSearchable (given : Kind)
  /-- Only a text can be looked for in a text. -/
  | notInText (given : Kind)
  /-- Only bytes can be looked for in bytes. -/
  | notInBytes (given : Kind)
  /-- A number is no byte. -/
  | notByte
  /-- Nothing can be done within the scope of something. -/
  | withoutScope (given : Kind)
  /-- An entry of a mapping is not given by a sequence. -/
  | entryKind (place : Nat)
  /-- An entry of a mapping is given by more or fewer things than two. -/
  | entryLength (place length : Nat)
  /-- All that a thing keeps was to be replaced by something else than a mapping. -/
  | keptKind (given : Kind)
  /-- The class of a thing was to be replaced by something else than a class. -/
  | classKind (given : Kind)
  /-- The class of a thing cannot be taken away. -/
  | classTaken
  /-- A part of a thing cannot be replaced. -/
  | partFixed (className part : String)
  /-- A number is the rank of no state. -/
  | stateUnknown (number : Value)
  /-- A name is not known. -/
  | nameUnknown (name : Value)
  /-- Nothing is held under a name. -/
  | slotEmpty (name : String)
  /-- A keyword is not understood. -/
  | keywordUnexpected (callee keyword : String)
  /-- An argument was given twice. -/
  | argumentRepeated (callee argument : String)
  /-- A keyword was given twice. -/
  | keywordRepeated (callee keyword : String)
  /-- No arguments are taken. -/
  | argumentsRefused (callee : String)
  /-- There are more arguments than places. -/
  | argumentsExcess (callee : String) (least most given : Nat)
  /-- A required argument was left out. -/
  | argumentMissing (callee argument : String)
  /-- The general source is only a pattern for sources. -/
  | sourceAbstract
  /-- No catalog was found for any language. -/
  | catalogMissing
  /-- A catalog cannot be read. -/
  | catalog (fault : CatalogFault)
  /-- The stream has been closed. -/
  | streamClosed
  /-- The stream has no room left. -/
  | streamFull
  /-- Writing was interrupted. -/
  | interrupted
  /-- Something has no text. -/
  | unwritable (reason : Unwritable)
  /-- An error has no text. -/
  | displayMissing
  /-- The text of an error is no text. -/
  | displayNotText (given : Kind)
  /-- A caller's error cannot be made with its arguments. -/
  | callerArguments (refusal : ArgumentRefusal)
  /-- A caller's error. -/
  | caller (error : CallerError)
  /-- A message template cannot be filled. -/
  | template (failure : Text.Template.Failure)

/-- The error class of something that cannot be laid out. -/
def Layout.Failure.errorClass : Layout.Failure → ErrorClass
  | characterOutside => .standard "OverflowError"
  | characterTooLarge => .standard "OverflowError"
  | numberTooLarge => .standard "OverflowError"
  | tooWide => .standard "MemoryError"
  | _ => .standard "ValueError"

def Text.Template.Failure.errorClass : Text.Template.Failure → ErrorClass
  | argumentMissing _ => .standard "IndexError"
  | positionOutside _ => .standard "IndexError"
  | nameMissing _ => .standard "KeyError"
  | keyMissing _ => .standard "KeyError"
  | partMissing _ _ => .standard "AttributeError"
  | classPartMissing _ _ => .standard "AttributeError"
  | memberMissing _ => .standard "AttributeError"
  | referencesMissing => .standard "AttributeError"
  | withoutItems _ => .standard "TypeError"
  | classWithoutItems _ => .standard "TypeError"
  | parametricWithoutItems _ => .standard "TypeError"
  | parametricTwice _ => .standard "TypeError"
  | parametersRefused _ => .standard "TypeError"
  | keyRefused _ => .standard "TypeError"
  | layoutUnsupported _ => .standard "TypeError"
  | layout failure => failure.errorClass
  | unwritable reason => .ofName reason.className
  | _ => .standard "ValueError"

def CatalogFault.errorClass : CatalogFault → ErrorClass
  | fieldCut => .standard "IndexError"
  | pluralRule .misplacedNegation => .standard "SyntaxError"
  | pluralRule .conditionCut => .standard "SyntaxError"
  | pluralRule _ => .standard "ValueError"
  | encodingUnknown _ => .standard "LookupError"
  | encodingNotText _ => .standard "LookupError"
  | encodingBroken => .standard "ValueError"
  | undecodable _ => .standard "UnicodeDecodeError"
  | refused _ _ => .standard "UnicodeError"
  | formsExcess => .standard "ValueError"

namespace Fault

def errorClass : Fault → ErrorClass
  | settingKind _ => .limitsType
  | settingNotInteger _ _ => .limitsNumber
  | settingOutOfRange _ _ => .limitsNumber
  | valueKind _ => .limitsType
  | stateKind _ => .limitsType
  | limitIndex _ => .limitsValue
  | limitUnmanaged _ _ => .limitsValue
  | environmentKind _ => .limitsType
  | settingsKind _ => .limitsType
  | settingsBase _ => .limitsType
  | optionFixed _ => .limitsAttribute
  | optionUndeletable _ => .limitsAttribute
  | optionFlagKind _ _ => .limitsType
  | optionLevelKind _ _ => .limitsType
  | levelName _ => .limitsValue
  | levelKind _ => .standard "TypeError"
  | variableNameKind _ => .standard "TypeError"
  | attributeMissing _ _ => .standard "AttributeError"
  | classAttributeMissing _ _ => .standard "AttributeError"
  | notIterable _ => .standard "TypeError"
  | unkeyable _ => .standard "TypeError"
  | notComparable _ _ _ => .standard "TypeError"
  | integerPartMissing number => match number with
    | .infinite _ => .standard "OverflowError"
    | _ => .standard "ValueError"
  | notReal _ => .standard "TypeError"
  | positionOutside _ => .standard "IndexError"
  | positionTooLarge => .standard "IndexError"
  | notCallable _ => .standard "TypeError"
  | withoutItems _ => .standard "TypeError"
  | itemsFixed _ => .standard "TypeError"
  | withoutSize _ => .standard "TypeError"
  | notSearchable _ => .standard "TypeError"
  | notInText _ => .standard "TypeError"
  | notInBytes _ => .standard "TypeError"
  | notByte => .standard "ValueError"
  | withoutScope _ => .standard "TypeError"
  | entryKind _ => .standard "TypeError"
  | entryLength _ _ => .standard "ValueError"
  | keptKind _ => .standard "TypeError"
  | classKind _ => .standard "TypeError"
  | classTaken => .standard "TypeError"
  | partFixed _ _ => .standard "AttributeError"
  | stateUnknown _ => .standard "ValueError"
  | nameUnknown _ => .standard "KeyError"
  | slotEmpty _ => .standard "LookupError"
  | keywordUnexpected _ _ => .standard "TypeError"
  | argumentRepeated _ _ => .standard "TypeError"
  | keywordRepeated _ _ => .standard "TypeError"
  | argumentsRefused _ => .standard "TypeError"
  | argumentsExcess _ _ _ _ => .standard "TypeError"
  | argumentMissing _ _ => .standard "TypeError"
  | sourceAbstract => .standard "TypeError"
  | catalogMissing => .standard "FileNotFoundError"
  | catalog fault => fault.errorClass
  | streamClosed => .standard "ValueError"
  | streamFull => .standard "OSError"
  | interrupted => .standard "KeyboardInterrupt"
  | unwritable reason => .ofName reason.className
  | displayMissing => .standard "RuntimeError"
  | displayNotText _ => .standard "TypeError"
  | callerArguments refusal => refusal.errorClass
  | caller error => .ofName error.className
  | template failure => failure.errorClass

def number? : Fault → Option (Value × Value)
  | settingNotInteger setting property => some (property, .text setting)
  | settingOutOfRange setting property => some (property, .text setting)
  | caller error =>
      if error.className == ErrorClass.limitsNumber.name then
        some ((error.arguments[1]?).getD .absent, (error.arguments[2]?).getD .absent)
      else none
  | _ => none

end Fault

end ProtectionLimits
