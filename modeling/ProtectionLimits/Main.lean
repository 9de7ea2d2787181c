import ProtectionLimits.CommandLine

/-!
Contract: the listing program as it is run.

Owns the reading of the environment and the writing of the two standard streams.
Of the environment only the variables that matter are read. All
decisions are `CommandLine.run`'s.
-/

set_option autoImplicit false

namespace ProtectionLimits.CommandLine

/-- The variables that matter: those that can set a limit, under their present or
former names, and the width of the screen. -/
def variableNames : List String :=
  (StandardLimit.all.map fun standard => standard.entry.systemProperty) ++
    formerNames.map Prod.snd ++ [columnsVariable]

def variablesSet : IO (List (String × String)) := do
  let values ← variableNames.mapM fun name => do
    let value ← IO.getEnv name
    pure (value.map fun value => (name, value))
  pure (values.filterMap id)

/-- Writes what the program has written and ends with its status. -/
def finish (outcome : Outcome) : IO UInt32 := do
  IO.eprint outcome.errors
  IO.print outcome.output
  pure (UInt32.ofNat outcome.status)

end ProtectionLimits.CommandLine

open ProtectionLimits in
/-- The program under its own settings and without a translation. -/
def main (arguments : List String) : IO UInt32 := do
  let bindings ← CommandLine.variablesSet
  match CommandLine.run .identity bindings .initial arguments with
  | .ok outcome => CommandLine.finish outcome
  | .error fault =>
      IO.eprintln (fault.report .identity).message
      pure 1
