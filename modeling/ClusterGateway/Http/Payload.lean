import ClusterGateway.Http.ApiError
import ClusterGateway.Json.Reader
import ClusterGateway.Yaml.Json

/-!
# Bodies of requests

A blank body is no payload. Otherwise the content type tells JSON from YAML, and a body of no
type at all is read as YAML.
-/

namespace ClusterGateway.Http.Payload

def maxSize : Nat := 2097152

def isBlankByte (b : UInt8) : Bool :=
  b == 0x20 || b == 0x09 || b == 0x0A || b == 0x0C || b == 0x0D

inductive Format where
  | json
  | yaml
  deriving DecidableEq, Repr

def format? (contentType : String) : Option Format :=
  if Text.contains contentType "json" then some .json
  else if contentType.isEmpty || Text.contains contentType "yaml" || contentType.startsWith "text/" then
    some .yaml
  else none

def read (contentType : String) (body : List UInt8) : Except ApiError (Option Json) :=
  if body.all isBlankByte then .ok none
  else match format? contentType with
  | none => .error (.unsupportedMediaType s!"Expected JSON or YAML body, got {contentType}")
  | some .json =>
    match (Text.Utf8.decode? body).bind Json.parse? with
    | some v => .ok (some v)
    | none => .error (.badRequest "Invalid JSON: malformed text")
  | some .yaml =>
    match (Text.Utf8.decode? body).bind Yaml.readJson? with
    | some v => .ok (some v)
    | none => .error (.badRequest "Invalid YAML: malformed text")

end ClusterGateway.Http.Payload
