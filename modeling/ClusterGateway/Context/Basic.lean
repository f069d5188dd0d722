import ClusterGateway.Json.Record

/-!
# Cluster contexts

A context names a cluster and says how to reach it: with the credentials mounted into the
process, or with a kubeconfig file and perhaps one of the contexts in it.
-/

namespace ClusterGateway

inductive Connection.Way where
  | inCluster
  | kubeconfig
  deriving DecidableEq, Repr

def Connection.Way.tag : Connection.Way → String
  | inCluster => "in_cluster"
  | kubeconfig => "kubeconfig"

/-- A way to connect is told by its name, or by its number in the order of declaration. -/
def Connection.Way.ofJson? : Json → Option Connection.Way
  | .str s => [inCluster, kubeconfig].find? fun w => w.tag == s
  | .num (.int n) => if n < 0 then none else [inCluster, kubeconfig][n.toNat]?
  | _ => none

inductive Connection where
  | inCluster
  | kubeconfig (path : String) (context : Option String)
  deriving DecidableEq, Repr

def Connection.way : Connection → Connection.Way
  | inCluster => .inCluster
  | kubeconfig _ _ => .kubeconfig

structure ClusterContext where
  id : String
  connection : Connection
  deriving DecidableEq, Repr

namespace ClusterContext

def flags (c : ClusterContext) : List String :=
  match c.connection with
  | .inCluster => []
  | .kubeconfig path none => ["--kubeconfig", path]
  | .kubeconfig path (some context) => ["--kubeconfig", path, "--context", context]

/-- What a listing shows; the path of the credentials is not in it. -/
def summary (c : ClusterContext) : Json :=
  .ofFields [("id", .str c.id), ("connection", .str c.connection.way.tag)]

def toJson (c : ClusterContext) : Json :=
  .ofFields <| [("id", .str c.id), ("type", .str c.connection.way.tag)] ++
    match c.connection with
    | .inCluster => []
    | .kubeconfig path context => [("path", .str path), ("context", .ofOption .str context)]

def ofJson? (v : Json) : Option ClusterContext := do
  let _ ← v.fields?
  let id ← (← v.get? "id").string?
  match ← Connection.Way.ofJson? (← v.get? "type") with
  | .inCluster => return ⟨id, .inCluster⟩
  | .kubeconfig =>
    let path ← (← v.get? "path").string?
    let context ← Json.optional? Json.string? (v.get? "context")
    return ⟨id, .kubeconfig path context⟩

end ClusterContext

end ClusterGateway
