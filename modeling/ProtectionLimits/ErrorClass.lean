/-!
Contract: the classes of errors and their lines of descent.

Owns the five error classes of the library, the standard classes, and for each
class the list of everything it counts as, from itself to the root. An error
class of the library also counts as the standard class that callers catch for
the same kind of failure.
-/

set_option autoImplicit false

namespace ProtectionLimits

/-- The classes of errors. -/
inductive ErrorClass where
  | limits
  | limitsAttribute
  | limitsType
  | limitsValue
  | limitsNumber
  | standard (name : String)
deriving DecidableEq, Repr

namespace ErrorClass

/-- Every standard class with the class right above it. -/
def parents : List (String × String) :=
  [("ArithmeticError", "Exception"), ("AssertionError", "Exception"),
    ("AttributeError", "Exception"), ("BaseExceptionGroup", "BaseException"),
    ("BlockingIOError", "OSError"), ("BrokenPipeError", "ConnectionError"),
    ("BufferError", "Exception"), ("BytesWarning", "Warning"), ("ChildProcessError", "OSError"),
    ("ConnectionAbortedError", "ConnectionError"), ("ConnectionError", "OSError"),
    ("ConnectionRefusedError", "ConnectionError"), ("ConnectionResetError", "ConnectionError"),
    ("DeprecationWarning", "Warning"), ("EOFError", "Exception"), ("EncodingWarning", "Warning"),
    ("Exception", "BaseException"), ("FileExistsError", "OSError"),
    ("FileNotFoundError", "OSError"), ("FloatingPointError", "ArithmeticError"),
    ("FutureWarning", "Warning"), ("GeneratorExit", "BaseException"),
    ("ImportError", "Exception"), ("ImportWarning", "Warning"),
    ("IndentationError", "SyntaxError"), ("IndexError", "LookupError"),
    ("InterruptedError", "OSError"), ("IsADirectoryError", "OSError"),
    ("KeyError", "LookupError"), ("KeyboardInterrupt", "BaseException"),
    ("LookupError", "Exception"), ("MemoryError", "Exception"),
    ("ModuleNotFoundError", "ImportError"), ("NameError", "Exception"),
    ("NotADirectoryError", "OSError"), ("NotImplementedError", "RuntimeError"),
    ("OSError", "Exception"), ("OverflowError", "ArithmeticError"),
    ("PendingDeprecationWarning", "Warning"), ("PermissionError", "OSError"),
    ("ProcessLookupError", "OSError"), ("RecursionError", "RuntimeError"),
    ("ReferenceError", "Exception"), ("ResourceWarning", "Warning"),
    ("RuntimeError", "Exception"), ("RuntimeWarning", "Warning"),
    ("StopAsyncIteration", "Exception"), ("StopIteration", "Exception"),
    ("SyntaxError", "Exception"), ("SyntaxWarning", "Warning"), ("SystemError", "Exception"),
    ("SystemExit", "BaseException"), ("TabError", "IndentationError"),
    ("TimeoutError", "OSError"), ("TypeError", "Exception"), ("UnboundLocalError", "NameError"),
    ("UnicodeDecodeError", "UnicodeError"), ("UnicodeEncodeError", "UnicodeError"),
    ("UnicodeError", "ValueError"), ("UnicodeTranslateError", "UnicodeError"),
    ("UnicodeWarning", "Warning"), ("UserWarning", "Warning"), ("ValueError", "Exception"),
    ("Warning", "Exception"), ("ZeroDivisionError", "ArithmeticError")]

/-- The names above and including a standard class, at most `fuel` of them
besides the root. -/
def ancestry (name : String) : Nat → List String
  | 0 => [name]
  | fuel + 1 =>
      match parents.lookup name with
      | some parent => name :: ancestry parent fuel
      | none => [name]

/-- A class above which nothing is known counts as an ordinary error. -/
def standardLineage (name : String) : List String :=
  let known := if (parents.lookup name).isSome || name == "BaseException" then ancestry name 8
    else name :: ancestry "Exception" 8
  known ++ ["object"]

def name : ErrorClass → String
  | limits => "XMLLimitsException"
  | limitsAttribute => "XMLLimitsAttributeError"
  | limitsType => "XMLLimitsTypeError"
  | limitsValue => "XMLLimitsValueError"
  | limitsNumber => "XMLLimitsNumberError"
  | standard name => name

def ofName (name : String) : ErrorClass :=
  if name == limits.name then limits
  else if name == limitsAttribute.name then limitsAttribute
  else if name == limitsType.name then limitsType
  else if name == limitsValue.name then limitsValue
  else if name == limitsNumber.name then limitsNumber
  else standard name

/-- The class with a name has that name. -/
@[simp] theorem name_ofName (className : String) : (ofName className).name = className := by
  unfold ofName
  repeat' split
  all_goals simp_all [name]

def lineage : ErrorClass → List String
  | limits => limits.name :: standardLineage "Exception"
  | limitsAttribute => limitsAttribute.name :: limits.name :: standardLineage "AttributeError"
  | limitsType => limitsType.name :: limits.name :: standardLineage "TypeError"
  | limitsValue => limitsValue.name :: limits.name :: standardLineage "ValueError"
  | limitsNumber =>
      limitsNumber.name :: limitsValue.name :: limits.name :: standardLineage "ValueError"
  | standard name => standardLineage name

def isLimits (errorClass : ErrorClass) : Bool := errorClass.lineage.contains limits.name

/-- Whether the class is an error in the ordinary sense. The others, such as an
interruption, are requests to stop. -/
def isOrdinary (errorClass : ErrorClass) : Bool := errorClass.lineage.contains "Exception"

end ErrorClass

end ProtectionLimits
