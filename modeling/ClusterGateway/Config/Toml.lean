import ClusterGateway.Config.Basic
import ClusterGateway.Toml.Document

/-!
# Configuration files

A file is TOML with a table for each part. A part may also be an array of its settings in order;
what is missing keeps its standard value, and what is not known is passed over.
-/

namespace ClusterGateway.Config

open Toml (Value)

def part? (names : List String) (v : Value) : Option (String → Option Value) :=
  match v with
  | .table entries => some fun name => entries.lookup name
  | .array items => some fun name => items[names.idxOf name]?
  | _ => none

def setting? (read : Value → Option α) (standard : α) : Option Value → Option α
  | none => some standard
  | some v => read v

def optional? (read : Value → Option α) : Option Value → Option (Option α)
  | none => some none
  | some v => (read v).map some

def natBelow? (bound : Nat) (v : Value) : Option Nat :=
  match v with
  | .integer n => if 0 ≤ n ∧ n.toNat < bound then some n.toNat else none
  | _ => none

def strings? (v : Value) : Option (List String) :=
  v.items?.bind fun items => items.mapM Value.string?

def context? (v : Value) : Option ClusterContext := do
  let entries ← v.entries?
  let id ← (← entries.lookup "id").string?
  let way ← (← entries.lookup "type").string?
  match ← Connection.Way.ofJson? (.str way) with
  | .inCluster => some ⟨id, .inCluster⟩
  | .kubeconfig =>
    some ⟨id, .kubeconfig (← (← entries.lookup "path").string?)
      (← optional? Value.string? (entries.lookup "context"))⟩

def isEmptyContent : Value → Bool
  | .table [] | .array [] => true
  | _ => false

/-- The name of a rotation, or a table with the name alone and nothing in it. -/
def rotation? : Value → Option Rotation
  | .string s => Rotation.ofName? s
  | .table [(s, content)] => if isEmptyContent content then Rotation.ofName? s else none
  | _ => none

def withServer? (c : Config) (v : Value) : Option Config := do
  let get ← part? ["host", "port", "request_timeout_secs"] v
  some { c with
    host := ← setting? Value.string? c.host (get "host")
    port := ← setting? (natBelow? (Nat.pow 2 16)) c.port (get "port")
    timeoutSeconds := ← setting? (natBelow? (Nat.pow 2 64)) c.timeoutSeconds (get "request_timeout_secs") }

def withClusters? (c : Config) (v : Value) : Option Config := do
  let get ← part? ["run_in_cluster", "kubeconfig", "kubeconfig_context", "contexts"] v
  some { c with
    inCluster := ← setting? Value.boolean? c.inCluster (get "run_in_cluster")
    kubeconfig := ← optional? Value.string? (get "kubeconfig")
    kubeconfigContext := ← optional? Value.string? (get "kubeconfig_context")
    contexts := ← setting? (fun v => v.items?.bind fun vs => vs.mapM context?) c.contexts (get "contexts") }

def withHidden? (c : Config) (v : Value) : Option Config := do
  let get ← part? ["ignore_namespaces"] v
  some { c with hidden := ← setting? strings? c.hidden (get "ignore_namespaces") }

def withDescribe? (c : Config) (v : Value) : Option Config := do
  let get ← part? ["program", "args"] v
  some { c with
    describe := ⟨← setting? Value.string? c.describe.program (get "program"),
      ← setting? strings? c.describe.args (get "args")⟩ }

def withAuth? (c : Config) (v : Value) : Option Config := do
  let get ← part? ["jwt_secret"] v
  some { c with secret := ← setting? Value.string? c.secret (get "jwt_secret") }

def withLogging? (c : Config) (v : Value) : Option Config := do
  let get ← part? ["level", "file_dir", "rotation", "json_format"] v
  some { c with
    logging := ⟨← setting? Value.string? c.logging.level (get "level"),
      ← optional? Value.string? (get "file_dir"),
      ← setting? rotation? c.logging.rotation (get "rotation"),
      ← setting? Value.boolean? c.logging.json (get "json_format")⟩ }

def parts : List (String × (Config → Value → Option Config)) :=
  [("server", withServer?), ("kubernetes", withClusters?), ("misc", withHidden?),
    ("describe", withDescribe?), ("auth", withAuth?), ("logging", withLogging?)]

def ofEntries? (entries : List (String × Value)) : Option Config :=
  parts.foldlM (fun c (name, set) =>
    match entries.lookup name with
    | none => some c
    | some v => set c v) standard

def parse? (text : String) : Option Config :=
  (Toml.parse? text).bind ofEntries?

/-! ## The sample file -/

def sampleList (xs : List String) : String :=
  if xs.isEmpty then "[]"
  else "[\n" ++ String.join (xs.map fun x => s!"    {Text.quoted x},\n") ++ "]"

def sampleLine (name : String) (value : Option String) : String :=
  match value with
  | some v => s!"{name} = {v}\n"
  | none => ""

def sampleText (s : String) : Option String := some (Text.quoted s)

def samplePart (name : String) (lines : List (String × Option String)) : String :=
  s!"[{name}]\n" ++ String.join (lines.map fun (n, v) => sampleLine n v)

def sample : String :=
  let c := standard
  "\n".intercalate [
    samplePart "server" [("host", sampleText c.host), ("port", some (toString c.port)),
      ("request_timeout_secs", some (toString c.timeoutSeconds))],
    samplePart "kubernetes" [("run_in_cluster", some (toString c.inCluster)),
      ("kubeconfig", c.kubeconfig.bind sampleText), ("kubeconfig_context", c.kubeconfigContext.bind sampleText),
      ("contexts", some (sampleList (c.contexts.map ClusterContext.id)))],
    samplePart "misc" [("ignore_namespaces", some (sampleList c.hidden))],
    samplePart "describe" [("program", sampleText c.describe.program),
      ("args", some (sampleList c.describe.args))],
    samplePart "auth" [("jwt_secret", sampleText c.secret)],
    samplePart "logging" [("level", sampleText c.logging.level),
      ("file_dir", c.logging.directory.bind sampleText),
      ("rotation", sampleText c.logging.rotation.name), ("json_format", some (toString c.logging.json))]]

end ClusterGateway.Config
