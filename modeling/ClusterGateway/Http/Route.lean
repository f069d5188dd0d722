import ClusterGateway.Http.Message

/-!
# Routes

A path is cut at its slashes. The fixed words go before a kind, and `describe` before a name; a
kind may be empty only where more follows it, and a name may not be empty.
-/

namespace ClusterGateway.Http

inductive Route where
  | health
  | templates
  | kinds
  | contexts
  | objects (kind : List Char)
  | describe (kind : List Char)
  | object (kind name : List Char)
  deriving DecidableEq, Repr

namespace Route

def ofPath? (path : List Char) : Option Route :=
  match (Uri.splitAll '/' path).map String.ofList with
  | ["", "health"] => some health
  | ["", "workload", kind] =>
    if kind = "templates" then some templates
    else if kind = "available-resources" then some kinds
    else if kind = "contexts" then some contexts
    else if kind.isEmpty then none
    else some (objects kind.toList)
  | ["", "workload", kind, name] =>
    if name.isEmpty then none
    else if name = "describe" then some (describe kind.toList)
    else some (object kind.toList name.toList)
  | _ => none

def isPublic : Route → Bool
  | health => true
  | _ => false

/-- The verb that a method on the route stands for; on the fixed routes a placeholder. -/
def methods : Route → List String
  | objects _ => ["GET", "HEAD", "POST", "PATCH", "DELETE"]
  | _ => ["GET", "HEAD"]

def allow (r : Route) : String := ",".intercalate r.methods

def accepts (r : Route) (method : String) : Bool := r.methods.contains method

end Route

end ClusterGateway.Http
