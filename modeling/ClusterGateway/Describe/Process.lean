import ClusterGateway.Shell.Run

/-!
# Programs

What comes of running a program with arguments and nothing to read. The programs are the shell
and a few small tools; a name without a slash is looked up among them, and whatever else there
is on a path cannot be run.
-/

namespace ClusterGateway

inductive ProcessEnd where
  | exited (status : Nat)
  | killed (signal : Nat)
  deriving DecidableEq, Repr

structure ProcessOutput where
  ending : ProcessEnd
  out : List UInt8
  err : List UInt8
  elapsed : Nat

inductive SpawnError where
  | notFound
  | notPermitted
  | nulByte
  deriving DecidableEq, Repr

inductive ProcessRun where
  | failed (error : SpawnError)
  | ended (output : ProcessOutput)
  | never

namespace SpawnError

def message : SpawnError → String
  | notFound => "No such file or directory (os error 2)"
  | notPermitted => "Permission denied (os error 13)"
  | nulByte => "nul byte found in provided data"

end SpawnError

namespace ProcessEnd

def isSuccess : ProcessEnd → Bool
  | exited status => status == 0
  | killed _ => false

def describe : ProcessEnd → String
  | exited status => s!"exit status: {status}"
  | killed signal =>
    match Shell.Signal.name? signal with
    | some name => s!"signal: {signal} (SIG{name})"
    | none => s!"signal: {signal}"

end ProcessEnd

namespace ProcessRun

def tools : List String :=
  ["true", "false", "echo", "printf", "cat", "head", "tail", "wc", "seq", "sleep", "test", "[", "kill"]

def shells : List String := ["sh", "dash", "bash"]

def directories : List String :=
  ["/", "/bin", "/dev", "/etc", "/home", "/lib", "/opt", "/proc", "/root", "/sbin", "/sys", "/tmp", "/usr",
    "/usr/bin", "/usr/lib", "/usr/local", "/usr/sbin", "/var", ".", ".."]

def plainFiles : List String := ["/etc/passwd", "/etc/hosts", "/etc/hostname", "/dev/null"]

def isProgram (name : String) : Bool := shells.contains name || tools.contains name

def trimSlashes (path : String) : String :=
  let cs := (path.toList.reverse.dropWhile (· = '/')).reverse
  if cs.isEmpty then "/" else String.ofList cs

def locate (program : String) : Except SpawnError String :=
  if program.toList.contains '\x00' then .error .nulByte
  else if isProgram program then .ok program
  else if ["/bin/", "/usr/bin/"].any fun d => program.startsWith d && isProgram (program.drop d.length).toString then
    .ok ((program.splitOn "/").getLastD "")
  else if !program.isEmpty && (directories.contains (trimSlashes program) || plainFiles.contains program) then
    .error .notPermitted
  else .error .notFound

def ofShell (result : Shell.Machine × Shell.Flow) : ProcessRun :=
  let (m, flow) := result
  let output (ending : ProcessEnd) := ended ⟨ending, m.written .out, m.written .err, m.elapsed⟩
  match flow with
  | .killed signal => output (.killed signal)
  | .never => never
  | _ => output (.exited m.status)

/-- Without a script the shell reads one from its input, which is empty. -/
def shell : List String → ProcessRun
  | "-c" :: script :: name :: args => ofShell (Shell.run script name args)
  | ["-c", script] => ofShell (Shell.run script "sh" [])
  | ["-c"] => ended ⟨.exited 2, [], ("sh: 0: -c requires an argument\n").toUTF8.toList, 0⟩
  | [] => ended ⟨.exited 0, [], [], 0⟩
  | file :: _ => ended ⟨.exited 2, [], (s!"sh: 0: cannot open {file}: No such file\n").toUTF8.toList, 0⟩

def run (program : String) (args : List String) : ProcessRun :=
  match locate program with
  | .error e => failed e
  | .ok name =>
    if args.any fun a => a.toList.contains '\x00' then failed .nulByte
    else if shells.contains name then shell args
    else ofShell (Shell.Command.run (.start name []) name args)

end ProcessRun

end ClusterGateway
