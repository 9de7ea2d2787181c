import ProtectionLimits.CommandLine.Arguments
import ProtectionLimits.CommandLine.Help
import ProtectionLimits.Fault.Report
import ProtectionLimits.Settings
import ProtectionLimits.Text.Column

/-!
Contract: the program that lists the limits in effect.

Owns the level of the log that a verbosity stands for, the listing, and the
outcome of the program: an exit status and what is written to the two
standard streams. The listing shows the limits of a registry that is made with
the default settings, the switches taking precedence, from the variables of an
environment. Log entries are written as they come; a failure of the library is
written behind them and ends the program with status one. Does not own the
reading of arguments or the help text; `CommandLine.Arguments` and
`CommandLine.Help` do.
-/

set_option autoImplicit false

namespace ProtectionLimits.CommandLine

/-- How a program ended: its exit status and what it has written. -/
structure Outcome where
  status : Nat
  output : String
  errors : String
deriving DecidableEq, Repr

/-! ### Verbosity -/

/-- Whether a value is at most an integer, if the two are ordered. -/
def atMost (value : Value) (bound : Int) : Except Fault Bool :=
  match value with
  | .number quantity => .ok (quantity.atMost bound)
  | other =>
      match other.integer? with
      | some integer => .ok (integer ≤ bound)
      | none => .error (.notComparable "<=" other.kind .int)

def levelFor (verbosity : Value) : Except Fault Int := do
  if ← atMost verbosity 0 then pure Severity.error.level
  else if verbosity.equals (.int 1) then pure Severity.warning.level
  else if verbosity.equals (.int 2) then pure Severity.info.level
  else pure Severity.debug.level

def levelForCount (count : Nat) : Int :=
  match count with
  | 0 => Severity.error.level
  | 1 => Severity.warning.level
  | 2 => Severity.info.level
  | _ => Severity.debug.level

/-! ### The listing -/

def entryLine (entry : Log.Entry) : String := entry.severity.name ++ ": " ++ entry.text

def keyWidth (rows : List Row) : Nat :=
  rows.foldl (fun width row => max width row.limit.key.display.length) 0

def valueWidth : Nat := 10

/-- The line of a limit: its key, its value, and where the value comes from. -/
def rowLine (width : Nat) (row : Row) : String :=
  Text.padRight width row.limit.key.display ++ "  " ++
    Text.padLeft valueWidth row.value.display ++ "  (" ++ row.state.label ++ ")"

/-- The lines of all limits, in table order. -/
def listingLines (registry : Registry) : List String :=
  registry.rows.map (rowLine (keyWidth registry.rows))

def listingSettings (settings : Settings) (listing : Listing) : Except Fault OptionObject :=
  settings.derived .defaults
    [("secure_processing", .bool listing.secure),
      ("loglevel", .int (levelForCount listing.verbosity))]

def listingRegistry (bindings : List (String × String)) (object : OptionObject) :
    Log.Run Registry :=
  Settings.makeRegistry object
    { table := .standard
      source := .layered (.process bindings) []
      names := .absent
      keywords := [] }
    Log.defaultLevel

/-- How a listing ends. A failure that is not the library's own is not caught. -/
def list (translate : Translator) (bindings : List (String × String))
    (settings : Settings) (listing : Listing) : Except Fault Outcome := do
  let object ← listingSettings settings listing
  let run := listingRegistry bindings object
  let written := Text.lines (run.entries.map entryLine)
  match run.result with
  | .ok registry => pure ⟨0, Text.lines (listingLines registry), written⟩
  | .error fault =>
      let report := fault.report translate
      if report.errorClass.isLimits then
        pure ⟨1, "", written ++ Text.lines ["error: " ++ report.message]⟩
      else .error fault

/-- How the program ends. -/
def run (translate : Translator) (bindings : List (String × String))
    (settings : Settings) (arguments : List String) : Except Fault Outcome :=
  match request arguments with
  | .error refusal =>
      .ok ⟨2, "", usage ++ Text.lines [programName ++ ": error: " ++ refusal.message]⟩
  | .ok .help => .ok ⟨0, helpText (columns bindings), ""⟩
  | .ok (.listing listing) => list translate bindings settings listing

end ProtectionLimits.CommandLine
