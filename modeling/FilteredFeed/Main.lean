import FilteredFeed.Command.Execute

open FilteredFeed.Command

-- Reads a file of the system.
def readFileAt (path : String) : IO (Except FileError String) := do
  try
    return .ok (← IO.FS.readFile path)
  catch e =>
    match e with
    | .noFileOrDirectory .. => return .error .notFound
    | .inappropriateType .. => return .error .isDirectory
    | e => return .error (.other (toString e))

def variableNamed (name : String) : IO (List (String × String)) := do
  return ((← IO.getEnv name).map fun value => (name, value)).toList

def main (args : List String) : IO UInt32 := do
  let assignments ← ["HOME", "FEEDLINE_CONFIG", "XDG_CONFIG_HOME"].mapM variableNamed
  let environment : Environment := { assignments := assignments.flatten }
  let arguments := Arguments.read args
  let paths :=
    match arguments with
    | .request _ request => request.paths environment
    | _ => []
  let contents ← paths.mapM fun path => return (path, ← readFileAt path)
  let read := fun path => (contents.lookup path).getD (.error .notFound)
  let outcome := arguments.execute environment read
  IO.print outcome.stdout
  IO.eprint outcome.stderr
  return outcome.exit.toUInt32
