import ProtectionLimits.ErrorClass
import ProtectionLimits.Value

/-!
Contract: errors that a caller makes, and the demands that classes of errors make
on their arguments.

Owns the error as its class and its arguments, and every reason for which an error
cannot be made with its arguments. Most classes take any arguments; those that are
about syntax, about encodings and about groups of errors do not. Does not own which
arguments are refused; `CallerError.Making` does.
-/

set_option autoImplicit false

namespace ProtectionLimits

/-- An error that a caller made: its class and what it was made with. -/
structure CallerError where
  className : String
  arguments : List Value

/-- Why an error cannot be made with its arguments. The callee is named where it is
known. -/
inductive ArgumentRefusal where
  | count (callee : Option String) (least most given : Nat)
  | notText (callee : Option String) (place : Nat) (given : Kind)
  | notInteger (given : Kind)
  | notBytes (given : Kind)
  | notIterable (given : Kind)
  | positionTooLarge
  | writtenTooLarge
  | endIncomplete
  | notSequence
  | noErrors
  | notError (place : Nat)
deriving DecidableEq, Repr

def ArgumentRefusal.errorClass : ArgumentRefusal → ErrorClass
  | positionTooLarge => .standard "OverflowError"
  | writtenTooLarge => .standard "ValueError"
  | noErrors => .standard "ValueError"
  | notError _ => .standard "ValueError"
  | _ => .standard "TypeError"

end ProtectionLimits
