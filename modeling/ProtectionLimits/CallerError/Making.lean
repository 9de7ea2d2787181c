import ProtectionLimits.Fault

/-!
Contract: making an error with its arguments.

Owns the classes that an error really gets and the arguments that are refused. A
system failure with a number and a reason gets the class that belongs to the
number. An error about syntax takes the place as its second argument, an error
about an encoding takes exactly the parts of its message, and a group takes a
message and the errors in it, which no caller can pass.
-/

set_option autoImplicit false

namespace ProtectionLimits.CallerError

/-! ### Classes -/

def systemFailure : String := "OSError"

def systemFailureNames : List String := ["OSError", "IOError", "EnvironmentError"]

def failureNumbers : List (Int × String) :=
  [(1, "PermissionError"), (2, "FileNotFoundError"), (3, "ProcessLookupError"),
    (4, "InterruptedError"), (10, "ChildProcessError"), (11, "BlockingIOError"),
    (13, "PermissionError"), (17, "FileExistsError"), (20, "NotADirectoryError"),
    (21, "IsADirectoryError"), (32, "BrokenPipeError"), (103, "ConnectionAbortedError"),
    (104, "ConnectionResetError"), (108, "BrokenPipeError"), (110, "TimeoutError"),
    (111, "ConnectionRefusedError"), (114, "BlockingIOError"), (115, "BlockingIOError")]

/-- Whether arguments are those of a system failure with a number and a reason, and
perhaps the files that it is about. -/
def describesFailure (arguments : List Value) : Bool :=
  2 ≤ arguments.length && arguments.length ≤ 5

def settledClass (error : CallerError) : String :=
  if systemFailureNames.contains error.className then
    let number? := if describesFailure error.arguments then
        (error.arguments.head?).bind Value.integer?
      else none
    (number?.bind fun number => failureNumbers.lookup number).getD systemFailure
  else error.className

def isKindOf (className other : String) : Bool :=
  (ErrorClass.ofName className).lineage.contains other

/-! ### Demands on arguments -/

def greatestPosition : Int := 9223372036854775807

def isPosition (integer : Int) : Bool :=
  -(greatestPosition + 1) ≤ integer && integer ≤ greatestPosition

def requireText (callee : Option String) (place : Nat) : Value → Except ArgumentRefusal String
  | .text content => .ok content
  | other => .error (.notText callee place other.kind)

def requirePosition (argument : Value) : Except ArgumentRefusal Int :=
  match argument.integer? with
  | none => .error (.notInteger argument.kind)
  | some integer => if isPosition integer then .ok integer else .error .positionTooLarge

/-- How many characters were written before a failure that blocks: an argument that
is a number. A file stands there as well. -/
def isWritten (argument : Value) : Except ArgumentRefusal Bool :=
  match argument with
  | .number _ => .error (.notInteger .number)
  | other => match other.integer? with
    | some integer => if isPosition integer then .ok true else .error .writtenTooLarge
    | none => .ok false

/-- The arguments of a failure that blocks. What was written is not shown. -/
def blockingArguments (arguments : List Value) : Except ArgumentRefusal (List Value) :=
  match arguments with
  | number :: reason :: third :: _ =>
      if describesFailure arguments then
        (isWritten third).map fun written => if written then [number, reason] else arguments
      else .ok arguments
  | _ => .ok arguments

def itemsOf : Value → Except ArgumentRefusal (List Value)
  | .text content => .ok (content.toList.map fun character => .text character.toString)
  | .bytes content => .ok (content.map fun byte => .int byte.toNat)
  | .list items => .ok items
  | .tuple items => .ok items
  | .mapping entries => .ok (entries.map Prod.fst)
  | other => .error (.notIterable other.kind)

/-- The arguments of an error about syntax. Of two arguments the second is the place,
with four parts at least; an end has a line and a column. -/
def syntaxArguments : List Value → Except ArgumentRefusal (List Value)
  | [message, place] => do
      let parts ← itemsOf place
      if parts.length < 4 || 6 < parts.length then .error (.count none 4 6 parts.length)
      else if parts.length = 5 then .error .endIncomplete
      else pure [message, .tuple parts]
  | arguments => .ok arguments

def decodingArguments (arguments : List Value) : Except ArgumentRefusal (List Value) :=
  match arguments with
  | [encoding, content, first, last, reason] => do
      let _ ← requireText none 1 encoding
      let _ ← requirePosition first
      let _ ← requirePosition last
      let _ ← requireText none 5 reason
      match content with
      | .bytes _ => pure arguments
      | other => .error (.notBytes other.kind)
  | _ => .error (.count none 5 5 arguments.length)

def encodingArguments (arguments : List Value) : Except ArgumentRefusal (List Value) :=
  match arguments with
  | [encoding, content, first, last, reason] => do
      let _ ← requireText none 1 encoding
      let _ ← requireText none 2 content
      let _ ← requirePosition first
      let _ ← requirePosition last
      let _ ← requireText none 5 reason
      pure arguments
  | _ => .error (.count none 5 5 arguments.length)

def replacementArguments (arguments : List Value) : Except ArgumentRefusal (List Value) :=
  match arguments with
  | [content, first, last, reason] => do
      let _ ← requireText none 1 content
      let _ ← requirePosition first
      let _ ← requirePosition last
      let _ ← requireText none 4 reason
      pure arguments
  | _ => .error (.count none 4 4 arguments.length)

def groupNames : List String := ["BaseExceptionGroup", "ExceptionGroup"]

/-- The callee that refusals about a group name. -/
def groupCallee : String := "BaseExceptionGroup.__new__"

/-- Why a group of errors cannot be made: no value is an error. -/
def groupRefusal (arguments : List Value) : ArgumentRefusal :=
  match arguments with
  | [message, errors] =>
      match requireText (some groupCallee) 1 message with
      | .error refusal => refusal
      | .ok _ => match errors with
        | .mapping _ => .notSequence
        | other => match itemsOf other with
          | .error _ => .notSequence
          | .ok [] => .noErrors
          | .ok _ => .notError 0
  | _ => .count (some groupCallee) 2 2 arguments.length

def madeArguments (className : String) (arguments : List Value) :
    Except ArgumentRefusal (List Value) :=
  if className == "BlockingIOError" then blockingArguments arguments
  else if className == "UnicodeDecodeError" then decodingArguments arguments
  else if className == "UnicodeEncodeError" then encodingArguments arguments
  else if className == "UnicodeTranslateError" then replacementArguments arguments
  else if isKindOf className "SyntaxError" then syntaxArguments arguments
  else if groupNames.contains className then .error (groupRefusal arguments)
  else .ok arguments

/-- The error that a caller asked for. A number error needs its message, and takes
the property and the setting at most. -/
def made (error : CallerError) : Except Fault CallerError :=
  let callee := ErrorClass.limitsNumber.name ++ ".__init__()"
  if error.className == ErrorClass.limitsNumber.name then
    if error.arguments.isEmpty then .error (.argumentMissing callee "message")
    else if 3 < error.arguments.length then
      .error (.argumentsExcess callee 2 4 (error.arguments.length + 1))
    else .ok error
  else
    match madeArguments error.settledClass error.arguments with
    | .error refusal => .error (.callerArguments refusal)
    | .ok arguments => .ok ⟨error.settledClass, arguments⟩

end ProtectionLimits.CallerError
