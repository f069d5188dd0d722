import ClusterGateway.Launch

/-!
# The program

Asks the host for the variables and the files that a launch may look at, and does what it says.
Serving lasts until the input ends.
-/

namespace ClusterGateway.Program

def variableNames : List String :=
  ["KUBECONFIG", "HOME", "RUST_LOG", "KUBEGATE_CONFIG"] ++ Config.Setting.all.map (·.name)

def readVariables : IO Config.Variables := do
  let known ← variableNames.filterMapM fun name => do
    return (← IO.getEnv name).map fun value => (name, value)
  return fun name => known.lookup name

def readFile (path : String) : IO (Except FileError (List UInt8)) := do
  try
    return .ok (← IO.FS.readBinFile path).toList
  catch
    | .noFileOrDirectory .. => return .error .missing
    | .inappropriateType .. => return .error .isDirectory
    | _ => return .error .notADirectory

def readFiles (var : Config.Variables) : IO Files := do
  let places ← (Config.places var).mapM fun path => return (path, ← readFile path)
  let configured : Files := fun path => (places.lookup path).getD (.error .missing)
  match Config.load configured var with
  | .error _ => return configured
  | .ok c =>
    match (c.defaultContext var).connection with
    | .inCluster => return configured
    | .kubeconfig path _ =>
      let kubeconfig ← readFile path
      let first : Files := fun p => if p = path then kubeconfig else configured p
      let named := match Kubeconfig.read first path with
        | .error _ => []
        | .ok k => (k.filesNamed).map (Files.join (Files.directory path))
      let beside ← named.mapM fun p => return (p, ← readFile p)
      return fun p => (beside.lookup p).getD (first p)

def waitForEnd : IO Unit := do
  let _ ← (← IO.getStdin).readToEnd

def run (arguments : List String) : IO UInt32 := do
  let var ← readVariables
  let l := Launch.run arguments var (← readFiles var)
  match l.ending with
  | .printed text => IO.print text
  | .failed _ => IO.eprintln l.ending.complaint
  | .serving _ => waitForEnd
  return UInt32.ofNat l.ending.exitCode

end ClusterGateway.Program

def main (arguments : List String) : IO UInt32 :=
  ClusterGateway.Program.run arguments
