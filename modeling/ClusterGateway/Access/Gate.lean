import ClusterGateway.Access.Principal
import ClusterGateway.Failure
import ClusterGateway.Resource.Catalog

/-!
# The access gate

Decides from the catalog and the level of the caller alone, before anything else is done.
-/

namespace ClusterGateway

namespace Catalog

variable (c : Catalog)

def lookup (kind : String) : Outcome ResourceKind :=
  match c.find? kind with
  | some r => .ok r
  | none => .error (.unsupportedKind kind)

def authorize (p : Principal) (kind : String) (verb : Verb) : Outcome ResourceKind := do
  let r ← c.lookup kind
  match r.policy.required? verb with
  | none => .error (.verbUnsupported r.name verb)
  | some required =>
    if p.hasLevel required then .ok r
    else .error (.insufficientAccess r.name verb required p.level)

end Catalog

def Principal.require (p : Principal) (level : Level) : Outcome Unit :=
  if p.hasLevel level then .ok () else .error (.insufficientAccess "*" .list level p.level)

end ClusterGateway
