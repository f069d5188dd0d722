import ClusterGateway.Config.Basic

/-!
# Overrides

Variables of the process take the place of single settings. A number that cannot be read leaves
its setting as it is, and a truth value that is not `true` is false.
-/

namespace ClusterGateway.Config

def afterPlus : List Char → List Char
  | '+' :: cs => cs
  | cs => cs

def number? (bound : Nat) (s : String) : Option Nat :=
  let ds := afterPlus s.toList
  let n := ds.foldl (fun n c => n * 10 + (c.toNat - 48)) 0
  if !ds.isEmpty && ds.all Char.isDigit && decide (n < bound) then some n else none

def truth (s : String) : Bool := s == "true"

def commaList (s : String) : List String :=
  ((s.toList.splitOn ',').map fun part => Text.trim (String.ofList part)).filter fun part => !part.isEmpty

inductive Setting where
  | host
  | port
  | timeout
  | inCluster
  | kubeconfig
  | kubeconfigContext
  | hidden
  | program
  | secret
  | logLevel
  | logDirectory
  | logJson
  deriving DecidableEq, Repr

namespace Setting

/-- In the order in which they are looked up. -/
def all : List Setting :=
  [host, port, timeout, inCluster, kubeconfig, kubeconfigContext, hidden, program, secret, logLevel, logDirectory,
    logJson]

def name : Setting → String
  | host => "KUBEGATE_HOST"
  | port => "KUBEGATE_PORT"
  | timeout => "KUBEGATE_REQUEST_TIMEOUT_SECS"
  | inCluster => "KUBEGATE_RUN_IN_CLUSTER"
  | kubeconfig => "KUBEGATE_KUBECONFIG"
  | kubeconfigContext => "KUBEGATE_KUBECONFIG_CONTEXT"
  | hidden => "KUBEGATE_IGNORE_NAMESPACES"
  | program => "KUBEGATE_DESCRIBE_PROGRAM"
  | secret => "KUBEGATE_JWT_SECRET"
  | logLevel => "KUBEGATE_LOG_LEVEL"
  | logDirectory => "KUBEGATE_LOG_DIR"
  | logJson => "KUBEGATE_LOG_JSON"

abbrev Value : Setting → Type
  | host | program | secret | logLevel => String
  | port | timeout => Nat
  | inCluster | logJson => Bool
  | kubeconfig | kubeconfigContext | logDirectory => Option String
  | hidden => List String

def read : (x : Setting) → String → Option x.Value
  | host, s | program, s | secret, s | logLevel, s => some s
  | port, s => number? (Nat.pow 2 16) s
  | timeout, s => number? (Nat.pow 2 64) s
  | inCluster, s | logJson, s => some (truth s)
  | kubeconfig, s | kubeconfigContext, s | logDirectory, s => some (some s)
  | hidden, s => some (commaList s)

def put : (x : Setting) → x.Value → Config → Config
  | host, v, c => { c with host := v }
  | port, v, c => { c with port := v }
  | timeout, v, c => { c with timeoutSeconds := v }
  | inCluster, v, c => { c with inCluster := v }
  | kubeconfig, v, c => { c with kubeconfig := v }
  | kubeconfigContext, v, c => { c with kubeconfigContext := v }
  | hidden, v, c => { c with hidden := v }
  | program, v, c => { c with describe := { c.describe with program := v } }
  | secret, v, c => { c with secret := v }
  | logLevel, v, c => { c with logging := { c.logging with level := v } }
  | logDirectory, v, c => { c with logging := { c.logging with directory := v } }
  | logJson, v, c => { c with logging := { c.logging with json := v } }

def told? (x : Setting) (var : Variables) : Option x.Value := (var x.name).bind x.read

def override (x : Setting) (var : Variables) (c : Config) : Config :=
  match x.told? var with
  | some v => x.put v c
  | none => c

end Setting

def applyOverrides (var : Variables) (c : Config) : Config :=
  Setting.all.foldl (fun c x => x.override var c) c

end ClusterGateway.Config
