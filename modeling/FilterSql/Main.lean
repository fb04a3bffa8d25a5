import FilterSql.Command.Run

/-! The program on the files of the machine it runs on. -/

namespace FilterSql

/-- The variables of the process that the program looks at. -/
def processEnvironment : IO Environment := do
  let names := ["SCIMQ_CONFIG", "XDG_CONFIG_HOME", "HOME", "NO_COLOR"]
  let present ← names.filterMapM fun name => do
    return (← IO.getEnv name).map fun value => (name, value)
  return .ofLookup (fun name => present.lookup name) none

/-- What is at a path. Only a path that passes through a file fails to open as being of the wrong type;
whatever opens and cannot be read counts as a directory. -/
def lookOnDisk (path : String) : IO Entry := do
  try
    return .file (← IO.FS.readFile path)
  catch
    | .noFileOrDirectory _ _ _ | .inappropriateType (some _) _ _ => return .missing
    | _ => return .directory

/-- The path of the directories that lead to a file. -/
def parentText (path : Path) : String :=
  let names := "/".intercalate (path.parents.filter (· != ""))
  if path.absolute then "/" ++ names else names

def writeOnDisk (text content : String) : IO (Except WriteError Unit) := do
  let parent := parentText (.ofText text)
  let made ← if parent.isEmpty then pure (.ok ()) else (IO.FS.createDirAll parent).toBaseIO
  match made with
  | .error _ => return .error .noDirectory
  | .ok _ =>
    match ← (IO.FS.writeFile text content).toBaseIO with
    | .error _ => return .error .notWritable
    | .ok _ => return .ok ()

/-- Carries out a plan on the files of the machine. -/
def Plan.onDisk : Plan → IO Outcome
  | finish outcome => return outcome
  | look path next => do (next (← lookOnDisk path)).onDisk
  | write path content next => do (next (← writeOnDisk path content)).onDisk

end FilterSql

open FilterSql in
def main (args : List String) : IO UInt32 := do
  let env ← processEnvironment
  let outcome ← (program env args).onDisk
  IO.print outcome.stdout
  IO.eprint outcome.stderr
  return UInt32.ofNat outcome.exitCode
