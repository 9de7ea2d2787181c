import ProtectionLimits.Fault
import ProtectionLimits.Text.Blank
import ProtectionLimits.Text.Capital

/-!
Contract: levels of the log, and what is written at a level.

Owns the severities, the names of levels, the level that a caller's value stands
for, and which entries a level lets through. A level of zero defers to the
default. Does not own levels that hold for the time of one call;
`Log.Scope` does.
-/

set_option autoImplicit false

namespace ProtectionLimits

/-- How grave an entry of the log is. -/
inductive Severity where
  | debug
  | info
  | warning
  | error
  | critical
deriving DecidableEq, Repr

namespace Severity

def level : Severity → Int
  | debug => 10
  | info => 20
  | warning => 30
  | error => 40
  | critical => 50

def name : Severity → String
  | debug => "DEBUG"
  | info => "INFO"
  | warning => "WARNING"
  | error => "ERROR"
  | critical => "CRITICAL"

end Severity

namespace Log

structure Entry where
  severity : Severity
  text : String
deriving DecidableEq, Repr

/-- The level that holds where none is set. -/
def defaultLevel : Int := Severity.warning.level

/-- The level in effect: zero means that none is set. -/
def effective (level : Int) : Int := if level = 0 then defaultLevel else level

def lets (level : Int) (severity : Severity) : Bool := effective level ≤ severity.level

/-- The entries that a level lets through, in order. -/
def visible (level : Int) (entries : List Entry) : List Entry :=
  entries.filter fun entry => lets level entry.severity

/-- The level that a name stands for; `WARN` is a short form. -/
def namedLevel? (name : List Char) : Option Int :=
  if name = ['D', 'E', 'B', 'U', 'G'] then some Severity.debug.level
  else if name = ['I', 'N', 'F', 'O'] then some Severity.info.level
  else if name = ['W', 'A', 'R', 'N'] then some Severity.warning.level
  else if name = ['W', 'A', 'R', 'N', 'I', 'N', 'G'] then some Severity.warning.level
  else if name = ['E', 'R', 'R', 'O', 'R'] then some Severity.error.level
  else if name = ['C', 'R', 'I', 'T', 'I', 'C', 'A', 'L'] then some Severity.critical.level
  else none

def levelNames : List String := ["CRITICAL", "DEBUG", "ERROR", "INFO", "WARN", "WARNING"]

/-- The level that a value stands for: any integer, or a name in any mixture of
cases with blanks around it. -/
def levelOf : Value → Except Fault Int
  | .text name =>
      match namedLevel? (Text.capitals (Text.trim name.toList)) with
      | some level => .ok level
      | none => .error (.levelName name)
  | .int level => .ok level
  | other => .error (.levelKind other.kind)

theorem visible_append (level : Int) (left right : List Entry) :
    visible level (left ++ right) = visible level left ++ visible level right := by
  simp [visible]

end Log

end ProtectionLimits
