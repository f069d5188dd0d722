import ClusterGateway.Client.Live
import ClusterGateway.Config.Load
import ClusterGateway.Resource.Kinds

/-!
# Launching the program

From arguments, variables and files to what the program does: it prints a sample, stops with a
message, or serves. The log is opened once the configuration is known to be free of faults, and
before the first client is built.
-/

namespace ClusterGateway

inductive Launch.Ending where
  | printed (text : String)
  | failed (message : String)
  | serving (c : Config)

structure Launch where
  ending : Launch.Ending
  log : Option Logging

namespace Launch

def sampleFlag : String := "--print-sample-config"

/-- A list of directives in a variable goes before the one of the configuration if it can be read. -/
def filterError? (var : Config.Variables) (l : Logging) : Option Logging.FilterError :=
  match (var "RUST_LOG").map Logging.filterError? with
  | some none => none
  | _ => Logging.filterError? l.level

def start (files : Files) (var : Config.Variables) (c : Config) : Ending :=
  match c.gateway? servedKinds var (Live.fleet files Live.unreachable c.describe) 0 ⟨0, ()⟩ with
  | some (.ok _) => .serving c
  | some (.error e) => .failed e.message
  | none => .failed "the default context does not answer"

def run (arguments : List String) (var : Config.Variables) (files : Files) : Launch :=
  if arguments.contains sampleFlag then ⟨.printed Config.sample, none⟩
  else match Config.load files var with
  | .error e => ⟨.failed s!"Invalid configuration: {e.message}", none⟩
  | .ok c =>
    match filterError? var c.logging with
    | some e => ⟨.failed e.message, none⟩
    | none => ⟨start files var c, some c.logging⟩

def Ending.exitCode : Ending → Nat
  | printed _ | serving _ => 0
  | failed _ => 1

def Ending.complaint : Ending → String
  | printed _ | serving _ => ""
  | failed message => s!"Error: {message}"

end Launch

end ClusterGateway
