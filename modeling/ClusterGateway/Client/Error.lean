import ClusterGateway.Failure
import ClusterGateway.Text.Utf8
import ClusterGateway.Uri.Target

/-!
# Errors of a cluster client

What can go wrong between the gateway and the API of a cluster, and as which failure it is
reported. An answer of the API, and a request or an answer that cannot be made out, leave the
connection as it is; everything else is a failure of the connection.
-/

namespace ClusterGateway

structure ApiStatus where
  status : String
  message : String
  reason : String
  code : UInt16
  deriving DecidableEq, Repr

inductive ClientError where
  | api (s : ApiStatus)
  | malformed (why : String)
  | requestRejected (why : String)
  | requestUnbuildable (why : String)
  | requestUnserializable (why : String)
  | invalidTarget (e : Uri.TargetError)
  | invalidPart (why : String)
  | invalidText (flaw : Text.Utf8.Flaw)
  | lineTooLong
  | events (why : String)
  | invalidGroupVersion (text : String)
  | missingKind (text : String)
  | undiscovered (why : String)
  | tlsMissing
  | service (why : String)
  | unreachable (why : String)
  deriving DecidableEq, Repr

namespace ClientError

def message : ClientError → String
  | api s => s!"ApiError: {s.message}: {s.reason}"
  | malformed why => why
  | requestRejected why => s!"failed to validate request: {why}"
  | requestUnbuildable why => s!"failed to build request: {why}"
  | requestUnserializable why => s!"failed to serialize body: {why}"
  | invalidTarget e => e.message
  | invalidPart why => why
  | invalidText flaw => s!"UTF-8 Error: {flaw.message}"
  | lineTooLong => "Error finding newline character"
  | events why => s!"Error reading events stream: {why}"
  | invalidGroupVersion text => s!"Error from discovery: Invalid GroupVersion: {text}"
  | missingKind text => s!"Error from discovery: Missing Kind: {text}"
  | undiscovered why => s!"Error from discovery: {why}"
  | tlsMissing => "TLS required but no TLS stack selected"
  | service why => s!"ServiceError: {why}"
  | unreachable why => why

def ofStatus (s : ApiStatus) : Failure :=
  if s.code = 404 then .notFound s.message
  else if s.code = 409 then
    if s.reason = "AlreadyExists" then .alreadyExists s.message else .conflict s.message
  else if s.code = 400 ∨ s.code = 422 then .validation s.message
  else .clusterApi s.code s.message

def failure (e : ClientError) : Failure :=
  match e with
  | api s => ofStatus s
  | malformed why => .validation s!"Malformed object: {why}"
  | requestRejected _ | requestUnbuildable _ | requestUnserializable _ | invalidTarget _ | invalidPart _ =>
    .validation e.message
  | invalidText _ | lineTooLong | events _ | invalidGroupVersion _ | missingKind _ | undiscovered _ =>
    .clusterApi 502 e.message
  | tlsMissing | service _ | unreachable _ => .connection e.message

end ClientError

end ClusterGateway
