import ClusterGateway.Access.Level
import ClusterGateway.Json.Record

/-!
# Principals

Who asks, and with which level.
-/

namespace ClusterGateway

structure Principal where
  id : String
  level : Level
  deriving DecidableEq, Repr

namespace Principal

def hasLevel (p : Principal) (required : Level) : Bool :=
  required ≤ p.level

def toJson (p : Principal) : Json :=
  .ofFields [("id", .str p.id), ("access_level", .str p.level.name)]

def ofJson? (v : Json) : Option Principal := do
  let field ← v.record? ["id", "access_level"]
  let id ← (← field "id").string?
  let level ← Level.ofName? (← (← field "access_level").tag?)
  return ⟨id, level⟩

end Principal

end ClusterGateway
