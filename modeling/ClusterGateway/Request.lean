import ClusterGateway.Access.Verb
import ClusterGateway.Json.Record

/-!
# Requests

One verb on one kind, in a context or the default one. Times are counted from an arbitrary
start; a request without a deadline gets the one of the gateway.
-/

namespace ClusterGateway

abbrev Instant := Nat

structure Request where
  verb : Verb
  kind : String
  context : Option String := none
  ns : Option String := none
  name : Option String := none
  payload : Option Json := none
  deadline : Option Instant := none
  deriving Repr

namespace Request

/-- The deadline stays behind: it means nothing to anyone else. -/
def toJson (r : Request) : Json :=
  .ofFields [
    ("verb", .str r.verb.name),
    ("kind", .str r.kind),
    ("context", .ofOption .str r.context),
    ("namespace", .ofOption .str r.ns),
    ("name", .ofOption .str r.name),
    ("payload", r.payload.getD .null)]

def ofJson? (v : Json) : Option Request := do
  let field ← v.record? ["verb", "kind", "context", "namespace", "name", "payload"]
  let verb ← Verb.ofName? (← (← field "verb").tag?)
  let kind ← (← field "kind").string?
  let context ← Json.optional? Json.string? (field "context")
  let ns ← Json.optional? Json.string? (field "namespace")
  let name ← Json.optional? Json.string? (field "name")
  let payload ← Json.optional? some (field "payload")
  return { verb, kind, context, ns, name, payload }

end Request

end ClusterGateway
