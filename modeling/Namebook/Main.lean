import Namebook.Settings.Help

/-!
The command line. It shows what was asked for, refuses settings that do not work, and ends where
serving would begin.
-/

namespace Namebook.Settings

/-- The variables of the machine that are options too. -/
def readEnvironment : IO Environment :=
  Flag.all.filterMapM fun flag => do
    return (← IO.getEnv flag.variableName).map fun value => (flag.variableName, value)

/-- Runs the program and gives its exit code. -/
def run (args : List String) : IO UInt32 := do
  match start args (← readEnvironment) with
  | .shown text =>
    IO.print text
    return 0
  | .misused why =>
    IO.eprint (misuseText why)
    return 2
  | .refused problem =>
    IO.eprint (refusalText problem)
    return 1
  | .ready _ => return 0

end Namebook.Settings

def main (args : List String) : IO UInt32 := Namebook.Settings.run args
