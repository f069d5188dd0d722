import ClusterGateway.Client.ClusterObject
import ClusterGateway.Client.Error
import ClusterGateway.Json.Printer
import ClusterGateway.Json.Reader
import ClusterGateway.Operation.Effect
import ClusterGateway.Text.Quoted

/-!
# Calls as requests to the API of a cluster

A call becomes one request, or is refused before it is sent. An answer with an error status
tells its own code and reason if it can be read, and otherwise its status is taken.
-/

namespace ClusterGateway

structure WireRequest where
  method : String
  target : String
  body : Option Json
  deriving DecidableEq, Repr

structure WireReply where
  status : UInt16
  body : List UInt8
  deriving Repr

namespace ApiResource

/-- The core group has a path of its own. -/
def root (r : ApiResource) : String :=
  if r.group.isEmpty then s!"/api/{r.version}" else s!"/apis/{r.group}/{r.version}"

def path (r : ApiResource) (ns : Option String) : String :=
  match ns with
  | some ns => s!"{r.root}/namespaces/{ns}/{r.plural}"
  | none => s!"{r.root}/{r.plural}"

end ApiResource

namespace Call

def object? (body : Json) : Except ClientError ClusterObject :=
  match ClusterObject.ofJson? body with
  | some o => .ok o
  | none => .error (.malformed "not an object of the cluster API")

def named (path name : String) : Except ClientError String :=
  if name.isEmpty then .error (.requestRejected "A non-empty name is required") else .ok s!"{path}/{name}"

/-- A fragment is not sent. -/
def built (method target : String) (body : Option Json) : Except ClientError WireRequest :=
  match Uri.Target.parse target with
  | .error e => .error (.requestUnbuildable e.message)
  | .ok t =>
    let query := match t.query with
      | some q => "?" ++ String.ofList q
      | none => ""
    .ok ⟨method, String.ofList t.path ++ query, body⟩

def request (c : Call) : Except ClientError WireRequest :=
  let path := c.resource.path c.ns
  match c.action with
  | .list => built "GET" (path ++ "?") none
  | .get name => do built "GET" (← named path name) none
  | .create body => do
    let o ← object? body
    built "POST" (path ++ "?") (some o.toJson)
  | .replace name body => do
    let o ← object? body
    built "PUT" ((← named path name) ++ "?") (some o.toJson)
  | .delete name => do built "DELETE" ((← named path name) ++ "?") (some (.obj []))

end Call

/-! ## Answers -/

namespace WireReply

def text (r : WireReply) : Except ClientError String :=
  match Text.Utf8.decode r.body with
  | .ok s => .ok s
  | .error flaw => .error (.invalidText flaw)

def isError (r : WireReply) : Bool := 400 ≤ r.status && r.status < 600

def textOr? (other : Option String) : Option Json → Option String
  | none => other
  | some v => v.string?

def status? (v : Json) : Option ApiStatus := do
  let field ← v.record? ["status", "message", "reason", "code"]
  some ⟨← (← field "status").string?, ← textOr? (some "") (field "message"),
    ← textOr? (some "") (field "reason"), ← (← field "code").uint16?⟩

def refusal (r : WireReply) (text : String) : ClientError :=
  match (Json.parse? text).bind status? with
  | some s => .api s
  | none => .api ⟨toString r.status.toNat, Text.quoted text, "Failed to parse error data", r.status⟩

def accepted (r : WireReply) : Except ClientError String := do
  let text ← r.text
  if r.isError then .error (r.refusal text) else .ok text

def unreadable : ClientError := .malformed "not the answer of a cluster API"

def object (r : ApiResource) (v : Json) : Except ClientError Json :=
  match ClusterObject.ofJson? v with
  | some o => .ok (o.withType r.typeName).toJson
  | none => .error unreadable

/-- The items of a list, where null stands for none. -/
def items? (v : Json) : Option (List Json) := do
  let fields ← v.fields?
  let metadata := fields.filter fun f => f.1 == "metadata"
  if !(metadata.all fun f => Metadata.isListMetadata f.2) || 1 < metadata.length then none
  match fields.filter fun f => f.1 == "items" with
  | [(_, .arr items)] => some items
  | [(_, .null)] => some []
  | _ => none

def cause? (v : Json) : Bool :=
  match v.record? ["reason", "message", "field"] with
  | none => false
  | some field => ["reason", "message", "field"].all fun name => (textOr? (some "") (field name)).isSome

def isDetails (v : Json) : Bool :=
  match v.record? ["name", "group", "kind", "uid", "causes", "retryAfterSeconds"] with
  | none => false
  | some field =>
    (["name", "group", "kind", "uid"].all fun name => (textOr? (some "") (field name)).isSome) &&
      (match field "causes" with
        | none => true
        | some v => match v.items? with
          | some causes => causes.all cause?
          | none => false) &&
      (match field "retryAfterSeconds" with
        | none => true
        | some v => (v.natBelow? (Nat.pow 2 32)).isSome)

def isStatus (v : Json) : Bool :=
  match v.fields? with
  | none => false
  | some fields =>
    let field := fun name => Json.Fields.get? name fields
    (["status", "code", "message", "reason", "details"].all fun name => (fields.filter (·.1 == name)).length ≤ 1) &&
    (match field "status" with
      | none | some .null => true
      | some v => v.tag? == some "Success" || v.tag? == some "Failure") &&
      (match field "code" with
        | none => true
        | some v => v.uint16?.isSome) &&
      (["message", "reason"].all fun name => (textOr? (some "") (field name)).isSome) &&
      (match field "details" with
        | none | some .null => true
        | some v => isDetails v)

def deleted (v : Json) : Except ClientError Json :=
  if v.sorted.get? "kind" = some (.str "Status") then if isStatus v then .ok .null else .error unreadable
  else if (ClusterObject.ofJson? v).isSome then .ok .null
  else .error unreadable

def answer (c : Call) (r : WireReply) : Except ClientError Json := do
  let text ← r.accepted
  match Json.parseAsWritten? text with
  | none => .error unreadable
  | some v =>
    match c.action with
    | .list =>
      match items? v with
      | none => .error unreadable
      | some items => return .arr (← items.mapM (object c.resource))
    | .get _ | .create _ | .replace _ _ => object c.resource v
    | .delete _ => deleted v

end WireReply

end ClusterGateway
