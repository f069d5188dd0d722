import ClusterGateway.Config.Logging
import ClusterGateway.Describe.Tool
import ClusterGateway.Files
import ClusterGateway.Gateway.State

/-!
# Configuration

What an operator can set, what holds otherwise, and what has to be true of it before a gateway
is started. The first fault in the order of the checks is the one that is told.
-/

namespace ClusterGateway

structure Config where
  host : String
  port : Nat
  timeoutSeconds : Nat
  inCluster : Bool
  kubeconfig : Option String
  kubeconfigContext : Option String
  contexts : List ClusterContext
  hidden : List String
  describe : DescribeTool
  secret : String
  logging : Logging
  deriving DecidableEq, Repr

namespace Config

def standardSecret : String := "kubegate-default-jwt-secret-change-me"

def standard : Config where
  host := "0.0.0.0"
  port := 8080
  timeoutSeconds := 30
  inCluster := false
  kubeconfig := none
  kubeconfigContext := none
  contexts := []
  hidden := ["kube-system", "kube-public", "kube-node-lease"]
  describe := .standard
  secret := standardSecret
  logging := .standard

def usesStandardSecret (c : Config) : Bool := c.secret == standardSecret

/-! ## Faults -/

inductive Fault where
  | zeroPort
  | timeoutOutOfRange
  | emptyProgram
  | emptySecret
  | emptyContextId
  | reservedContextId
  | repeatedContextId (id : String)
  deriving DecidableEq, Repr

/-- One day. -/
def maxTimeoutSeconds : Nat := 86400

def defaultId : String := "default"

def Fault.message : Fault → String
  | zeroPort => "Port cannot be 0"
  | timeoutOutOfRange => s!"Request timeout must be between 1 and {maxTimeoutSeconds} seconds"
  | emptyProgram => "Describe program cannot be empty"
  | emptySecret => "JWT secret cannot be empty"
  | emptyContextId => "Context id cannot be empty"
  | reservedContextId => s!"Context id '{defaultId}' is reserved for the default context"
  | repeatedContextId id => s!"Context '{id}' is declared more than once"

def idFault? (seen : List String) : List String → Option Fault
  | [] => none
  | id :: rest =>
    if Text.isBlankText id then some .emptyContextId
    else if id = defaultId then some .reservedContextId
    else if seen.contains id then some (.repeatedContextId id)
    else idFault? (id :: seen) rest

def fault? (c : Config) : Option Fault :=
  if c.port = 0 then some .zeroPort
  else if c.timeoutSeconds < 1 ∨ maxTimeoutSeconds < c.timeoutSeconds then some .timeoutOutOfRange
  else if Text.isBlankText c.describe.program then some .emptyProgram
  else if c.secret.isEmpty then some .emptySecret
  else idFault? [] (c.contexts.map ClusterContext.id)

/-! ## From a configuration to a gateway -/

abbrev Variables := String → Option String

def kubeconfigOfVariables (var : Variables) : String :=
  match (var "KUBECONFIG").map fun s => (s.splitOn ":").headD "" with
  | some first => if first.isEmpty then ofHome else first
  | none => ofHome
where
  ofHome : String :=
    match var "HOME" with
    | some home => Files.join (Files.join home ".kube") "config"
    | none => ".kube/config"

def defaultContext (c : Config) (var : Variables) : ClusterContext :=
  if c.inCluster then ⟨defaultId, .inCluster⟩
  else ⟨defaultId, .kubeconfig (c.kubeconfig.getD (kubeconfigOfVariables var)) c.kubeconfigContext⟩

def settings (c : Config) (catalog : Catalog) : Settings :=
  ⟨catalog, .ofList c.hidden, some (c.timeoutSeconds * 1000)⟩

def start? {σ κ : Type} (c : Config) (var : Variables) (f : Fleet σ κ) (clock : Instant) (world : σ) :
    Option (Except StartError (State σ κ)) :=
  State.start? f (c.defaultContext var) c.contexts clock world

/-- The gateway with the settings that it serves by. The kinds are read before anything is built. -/
def gateway? {σ κ : Type} (c : Config) (kinds : List ResourceKind) (var : Variables) (f : Fleet σ κ)
    (clock : Instant) (world : σ) : Option (Except StartError (Settings × State σ κ)) :=
  match Catalog.ofTable kinds with
  | .error clash => some (.error (.catalog clash))
  | .ok catalog =>
    match c.start? var f clock world with
    | none => none
    | some (.error e) => some (.error e)
    | some (.ok s) => some (.ok (c.settings catalog, s))

end Config

end ClusterGateway
