import DataShape.Command

/-!
# The program as it is started

Looks up the variables and files that a run may consult, and prints what the run comes to.
-/

namespace DataShape.Command

/-- What stands at a path. -/
def entryAt (path : String) : IO (Option FileEntry) := do
  try
    return some (.file (← IO.FS.readFile path))
  catch
    | .inappropriateType _ 21 _ => return some .folder
    | _ => return none

/-- The variables that are set among those that a run may consult. -/
def readEnvironment : IO Environment :=
  consultedVariables.filterMapM fun name => do
    return (← IO.getEnv name).map fun value => (name, value)

/-- The files that a run may consult. -/
def readFiles (env : Environment) (arguments : List String) : IO Files := do
  let entries ← (consulted env arguments).mapM fun path => do
    return (path, ← entryAt path)
  return fun path => (entries.lookup path).join

/-- Prints an outcome and gives the code that the program ends with. -/
def present (o : Outcome) : IO UInt32 := do
  IO.print o.output
  IO.eprint o.log
  match o.ending with
  | .exit code => return code.toUInt32
  | .crash failure =>
    IO.eprintln failure.message
    return 1

end DataShape.Command

open DataShape.Command

def main (arguments : List String) : IO UInt32 := do
  let env ← readEnvironment
  present (run (← readFiles env arguments) env arguments)
