import ClusterGateway.Gateway.Execute
import ClusterGateway.Http.Payload
import ClusterGateway.Http.Route
import ClusterGateway.Token.Basic

/-!
# Answering HTTP requests

Each request goes through the cross-origin rules, the route, the credentials, the path, the
query and the body, in this order, before it becomes one operation of the gateway.
-/

namespace ClusterGateway.Http

structure Query where
  context : Option String
  ns : Option String
  name : Option String
  deriving DecidableEq, Repr

namespace Query

def fields : List String := ["context", "namespace", "name"]

def firstRepeat? (seen : List String) : List (String × String) → Option String
  | [] => none
  | (k, _) :: rest =>
    if !fields.contains k then firstRepeat? seen rest
    else if seen.contains k then some k
    else firstRepeat? (k :: seen) rest

def parse (text : Option (List Char)) : Except String Query :=
  let pairs := Uri.formPairs (text.getD [])
  match firstRepeat? [] pairs with
  | some k => .error s!"Failed to deserialize query string: duplicate field \x60{k}\x60"
  | none =>
    let value (k : String) := (pairs.find? (·.1 == k)).map Prod.snd
    .ok ⟨value "context", value "namespace", value "name"⟩

end Query

structure Auth where
  secret : String
  now : Nat

namespace Auth

def principal (a : Auth) (r : Request) : Except ApiError Principal :=
  let token := (r.header? "authorization").bind fun value =>
    if value.startsWith "Bearer " then some (value.drop 7).toString else none
  match token with
  | none => .error (.authenticationFailed "Bearer token required")
  | some token =>
    match Token.validate a.secret token a.now with
    | .error e => .error (.authenticationFailed e.report)
    | .ok claims => .ok ⟨claims.subject, claims.level⟩

end Auth

namespace Cors

def methods : String := "GET,POST,PATCH,DELETE"

def headers : String := "authorization,content-type"

def vary : String := "origin, access-control-request-method, access-control-request-headers"

def mark (r : Response) : Response :=
  (r.withHeader "access-control-allow-origin" "*").withHeader "vary" vary

def preflight : Response :=
  mark ((Response.ofStatus 200).withHeader "access-control-allow-headers" headers
    |>.withHeader "access-control-allow-methods" methods)

end Cors

def envelopeResponse (e : Envelope) : Response := .ofJson e.httpStatus e.toJson

def pathError (name : String) : Response :=
  .ofText 400 s!"Invalid URL: Invalid UTF-8 in \x60{name}\x60"

def verbOf (method : String) : Verb :=
  if method = "POST" then .create
  else if method = "PATCH" then .update
  else if method = "DELETE" then .delete
  else .list

def hasBody (v : Verb) : Bool :=
  match v with
  | .create | .update | .delete => true
  | .list | .get | .describe => false

def operation (r : Request) : Route → Except Response (Option ClusterGateway.Request)
  | .objects kind => do
    let some kind := Uri.segment? kind | .error (pathError "kind")
    let query ← (Query.parse r.target.query).mapError (Response.ofText 400)
    let verb := verbOf r.method
    let request : ClusterGateway.Request :=
      { verb, kind, context := query.context, ns := query.ns, name := query.name }
    if hasBody verb then
      if Payload.maxSize < r.body.length then
        .error (.ofText 413 "Failed to buffer the request body: length limit exceeded")
      let payload ← (Payload.read ((r.header? "content-type").getD "") r.body).mapError ApiError.response
      return some { request with payload }
    else return some request
  | .describe kind => do
    let some kind := Uri.segment? kind | .error (pathError "kind")
    let query ← (Query.parse r.target.query).mapError (Response.ofText 400)
    return some { verb := .describe, kind, context := query.context, ns := query.ns, name := query.name }
  | .object kind name => do
    let some kind := Uri.segment? kind | .error (pathError "kind")
    let some name := Uri.segment? name | .error (pathError "name")
    let query ← (Query.parse r.target.query).mapError (Response.ofText 400)
    return some { verb := .get, kind, context := query.context, ns := query.ns, name := some name }
  | .health | .templates | .kinds | .contexts => .ok none

section
variable {σ κ : Type} [DecidableEq κ] (g : Settings) (f : Fleet σ κ)

def fixed (p : Principal) (s : State σ κ) : Route → Response
  | .templates => envelopeResponse (Gateway.templates g p)
  | .kinds => envelopeResponse (Gateway.kinds g p)
  | .contexts => envelopeResponse (Gateway.contexts s p)
  | _ => .ofStatus 404

def handle (p : Principal) (r : Request) (route : Route) (s : State σ κ) : Option Response × State σ κ :=
  match operation r route with
  | .error response => (some response, s)
  | .ok none => (some (fixed g p s route), s)
  | .ok (some request) =>
    let (envelope, s) := Gateway.execute g f p request s
    (envelope.map envelopeResponse, s)

def guarded (a : Auth) (r : Request) (route : Route) (s : State σ κ) : Option Response × State σ κ :=
  match a.principal r with
  | .error e => (some e.response, s)
  | .ok p =>
    if route.accepts r.method then handle g f p r route s
    else (some (.ofStatus 405), s)

/-- The answer on a route: the body goes where only the head was asked for, and a method that
the route does not take is told which ones it does. -/
def onRoute (a : Auth) (r : Request) (route : Route) (s : State σ κ) : Option Response × State σ κ :=
  let (response, s) :=
    if route.isPublic then
      (some (if route.accepts r.method then .ofJson 200 (.obj [("status", .str "ok")]) else .ofStatus 405), s)
    else guarded g f a r route s
  let finish (response : Response) : Response :=
    if !route.accepts r.method then response.withHeader "allow" route.allow
    else if r.method = "HEAD" then response.withoutBody
    else response
  (response.map finish, s)

/-- Without a route there is nothing, and only those with credentials are told so. -/
def offRoute (a : Auth) (r : Request) : Response :=
  match a.principal r with
  | .error e => e.response
  | .ok _ => .ofStatus 404

def serve (a : Auth) (r : Request) (s : State σ κ) : Option Response × State σ κ :=
  let route := Route.ofPath? r.target.path
  if r.method = "OPTIONS" then
    (some (match route with
      | some route => Cors.preflight.withHeader "allow" route.allow
      | none => Cors.preflight), s)
  else match route with
    | none => (some (Cors.mark (offRoute a r)), s)
    | some route =>
      let (response, s) := onRoute g f a r route s
      (response.map Cors.mark, s)

end

end ClusterGateway.Http
