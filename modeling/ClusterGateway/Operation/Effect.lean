import ClusterGateway.Operation.Hidden
import ClusterGateway.Request

/-!
# What a request does

A request on a kind comes down to one effect, a call to the cluster or a run of the describe
tool, or is refused before it. `Effect.conclude` turns what comes back into the answer.
-/

namespace ClusterGateway

inductive Call.Action where
  | list
  | get (name : String)
  | create (body : Json)
  | replace (name : String) (body : Json)
  | delete (name : String)
  deriving DecidableEq, Repr

structure Call where
  resource : ApiResource
  ns : Option String
  action : Call.Action
  deriving DecidableEq, Repr

namespace Call

def Action.word : Action → String
  | list => "list"
  | get _ => "get"
  | create _ => "create"
  | replace _ _ => "replace"
  | delete _ => "delete"

def Action.name? : Action → Option String
  | list | create _ => none
  | get name | replace name _ | delete name => some name

def Action.body? : Action → Option Json
  | create body | replace _ body => some body
  | list | get _ | delete _ => none

end Call

inductive Effect where
  | call (call : Call)
  | describe (ns : Option String) (name : String)
  deriving DecidableEq, Repr

namespace Effect

open Address Manifest

section
variable (r : ResourceKind) (q : Request)

def planList : Checked Effect := do
  return .call ⟨r.api, ← listNamespace r q.ns, .list⟩

def planGet : Checked Effect := do
  let ns ← targetNamespace r q.ns
  let name ← targetName r q.name
  return .call ⟨r.api, ns, .get name⟩

def planDescribe : Checked Effect := do
  let ns ← targetNamespace r q.ns
  let name ← targetName r q.name
  return .describe ns name

def planCreate : Checked Effect := do
  let some payload := q.payload | .error (.payloadRequired .create)
  let (ns, body) ← prepare r q.ns payload
  match metadata? body "name" with
  | some name => let _ ← checkName name
  | none => if (metadata? body "generateName").isNone then .error .unnamed
  return .call ⟨r.api, ns, .create body⟩

def planUpdate : Checked Effect := do
  let some payload := q.payload | .error (.payloadRequired .update)
  let (ns, body) ← prepare r q.ns payload
  let some name := metadata? body "name" | .error .nameMissing
  let _ ← checkName name
  if (metadata? body "resourceVersion").isNone then .error .versionMissing
  match Text.nonBlank? q.name with
  | some requested => if requested ≠ name then .error (.nameMismatch requested name)
  | none => pure ()
  return .call ⟨r.api, ns, .replace name body⟩

/-- A field that the request lacks is taken from the payload, which serves as a key here. -/
def planDelete : Checked Effect := do
  let key (field : String) := q.payload.bind (metadata? · field)
  let name ← targetName r ((Text.nonBlank? q.name).or (key "name"))
  let ns ← targetNamespace r ((Text.nonBlank? q.ns).or (key "namespace"))
  return .call ⟨r.api, ns, .delete name⟩

def plan : Checked Effect :=
  match q.verb with
  | .list => planList r q
  | .get => planGet r q
  | .describe => planDescribe r q
  | .create => planCreate r q
  | .update => planUpdate r q
  | .delete => planDelete r q

def ofRequest : Outcome Effect :=
  if r.supports q.verb then (plan r q).mapError Refusal.failure
  else .error (.verbUnsupported r.name q.verb)

end

/-- The answer to the caller: a list without what is hidden, and a note of what was deleted. -/
def conclude (h : Hidden) (r : ResourceKind) (e : Effect) (answer : Json) : Json :=
  match e with
  | .call ⟨_, _, .list⟩ =>
    match answer with
    | .arr items => .arr (items.filter (h.shows r))
    | other => other
  | .call ⟨_, ns, .delete name⟩ =>
    .ofFields [("status", .str "deleted"), ("kind", .str r.name), ("name", .str name),
      ("namespace", .ofOption .str ns)]
  | _ => answer

end Effect

end ClusterGateway
