import ClusterGateway.Access.Policy
import ClusterGateway.Json.Record

/-!
# Kinds of resource

One row says what a kind is called here, where the cluster API keeps it, whether its objects
live in namespaces, and who may do what with them. Nothing else in the library knows a kind.
-/

namespace ClusterGateway

inductive Scope where
  | namespaced
  | cluster
  deriving DecidableEq, Repr

namespace Scope

def tag : Scope → String
  | namespaced => "Namespaced"
  | cluster => "ClusterScoped"

def name : Scope → String
  | namespaced => "namespaced"
  | cluster => "cluster"

def ofJson? (v : Json) : Option Scope := do
  let t ← v.tag?
  [namespaced, cluster].find? fun s => s.tag == t

end Scope

structure ApiResource where
  group : String
  version : String
  kind : String
  plural : String
  deriving DecidableEq, Repr

namespace ApiResource

/-- The core group has no name, and its versions stand alone. -/
def apiVersion (r : ApiResource) : String :=
  if r.group.isEmpty then r.version else r.group ++ "/" ++ r.version

end ApiResource

structure ResourceKind where
  name : String
  aliases : List String
  api : ApiResource
  scope : Scope
  policy : Policy
  template : String
  description : String
  deriving DecidableEq, Repr

structure Template where
  kind : String
  template : String
  description : String
  deriving DecidableEq, Repr

def Template.toJson (t : Template) : Json :=
  .ofFields [("kind", .str t.kind), ("template", .str t.template), ("description", .str t.description)]

namespace ResourceKind

def apiVersion (r : ResourceKind) : String := r.api.apiVersion

def commandName (r : ResourceKind) : String :=
  if r.api.group.isEmpty then r.api.plural else r.api.plural ++ "." ++ r.api.group

def isNamespaced (r : ResourceKind) : Bool := r.scope == .namespaced

def isNamespaceKind (r : ResourceKind) : Bool := r.api.group.isEmpty && r.api.kind == "Namespace"

def supports (r : ResourceKind) (verb : Verb) : Bool := (r.policy.required? verb).isSome

def names (r : ResourceKind) : List String := r.name :: r.aliases ++ [r.api.kind, r.api.plural]

def starter (r : ResourceKind) : Template := ⟨r.name, r.template, r.description⟩

end ResourceKind

end ClusterGateway
