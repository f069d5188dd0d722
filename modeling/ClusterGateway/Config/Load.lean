import ClusterGateway.Config.Override
import ClusterGateway.Config.Toml
import ClusterGateway.Files
import ClusterGateway.Text.Quoted

/-!
# Loading a configuration

The first file that exists is read, the variables of the process override it, and the result has
to be free of faults.
-/

namespace ClusterGateway.Config

inductive LoadError where
  | unreadable (path why : String)
  | malformed
  | invalid (f : Fault)
  deriving DecidableEq, Repr

def LoadError.message : LoadError → String
  | unreadable path why => s!"Failed to read config file {Text.quotedPath path}: {why}"
  | malformed => "Failed to parse config: malformed file"
  | invalid f => s!"Config validation failed: {f.message}"

def read (files : Files) (path : String) : Except LoadError Config :=
  match files path with
  | .error e => .error (.unreadable path e.message)
  | .ok bytes =>
    match Text.Utf8.decode? bytes with
    | none => .error (.unreadable path "stream did not contain valid UTF-8")
    | some text =>
      match parse? text with
      | some c => .ok c
      | none => .error .malformed

def validate (c : Config) : Except LoadError Unit :=
  match c.fault? with
  | some f => .error (.invalid f)
  | none => .ok ()

def places (var : Variables) : List String :=
  (var "KUBEGATE_CONFIG").toList ++ ["/etc/kubegate/config.toml", "./kubegate.toml"]

def exists? (files : Files) (path : String) : Bool :=
  match files path with
  | .ok _ | .error .isDirectory => true
  | .error _ => false

def load (files : Files) (var : Variables) : Except LoadError Config := do
  let c ← match (places var).find? (exists? files) with
    | some path => read files path
    | none => .ok standard
  let c := c.applyOverrides var
  c.validate
  return c

end ClusterGateway.Config
