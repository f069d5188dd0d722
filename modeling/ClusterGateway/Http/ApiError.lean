import ClusterGateway.Http.Message

/-!
# Errors of the HTTP layer

What is wrong with a request before it becomes an operation: its credentials, or its body.
-/

namespace ClusterGateway.Http

inductive ApiError where
  | badRequest (text : String)
  | authenticationFailed (text : String)
  | unsupportedMediaType (text : String)
  deriving DecidableEq, Repr

namespace ApiError

def status : ApiError → Nat
  | badRequest _ => 400
  | authenticationFailed _ => 401
  | unsupportedMediaType _ => 415

def code : ApiError → String
  | badRequest _ => "BAD_REQUEST"
  | authenticationFailed _ => "AUTHENTICATION_FAILED"
  | unsupportedMediaType _ => "UNSUPPORTED_MEDIA_TYPE"

def message : ApiError → String
  | badRequest text | unsupportedMediaType text => text
  | authenticationFailed _ => "Authentication credentials are invalid or missing"

def details? : ApiError → Option String
  | authenticationFailed text => some text
  | badRequest _ | unsupportedMediaType _ => none

def toJson (e : ApiError) : Json :=
  .ofFields <| [("status", .ofNat e.status), ("error", .str e.code), ("message", .str e.message)] ++
    (e.details?.map fun d => ("details", Json.str d)).toList

def response (e : ApiError) : Response := .ofJson e.status e.toJson

end ApiError

end ClusterGateway.Http
