import ClusterGateway.Json.Basic
import ClusterGateway.Text.Blank
import ClusterGateway.Uri.Target

/-!
# HTTP messages

Names of headers do not depend on case, and of several with one name the first counts. A value
is text only if it is visible ASCII with blanks and tabs.
-/

namespace ClusterGateway.Http

structure Request where
  method : String
  target : Uri.Target
  headers : List (String × String)
  body : List UInt8

inductive Body where
  | empty
  | text (s : String)
  | json (v : Json)

structure Response where
  status : Nat
  headers : List (String × String)
  body : Body

inductive RequestError where
  | method
  | target (e : Uri.TargetError)
  | headerName
  | headerValue
  deriving DecidableEq, Repr

def RequestError.message : RequestError → String
  | method => "invalid HTTP method"
  | target e => e.message
  | headerName => "invalid HTTP header name"
  | headerValue => "failed to parse header value"

def isTokenChar (c : Char) : Bool :=
  c.isAlphanum || "!#$%&'*+-.^_\x60|~".toList.contains c

def isToken (s : String) : Bool := !s.isEmpty && s.all isTokenChar

def isHeaderValueChar (c : Char) : Bool := c == '\t' || (0x20 ≤ c.toNat && c.toNat != 0x7F)

def isVisible (c : Char) : Bool := c == '\t' || (0x20 ≤ c.toNat && c.toNat < 0x7F)

namespace Request

def checkHeader (h : String × String) : Except RequestError (String × String) :=
  if !isToken h.1 then .error .headerName
  else if !h.2.all isHeaderValueChar then .error .headerValue
  else .ok (Text.asciiLower h.1, h.2)

/-- The first flaw in the order of the message, or the request. -/
def build (method target : String) (headers : List (String × String)) (body : List UInt8) :
    Except RequestError Request := do
  if !isToken method then .error .method
  let target ← (Uri.Target.parse target).mapError RequestError.target
  let headers ← headers.mapM checkHeader
  return ⟨method, target, headers, body⟩

def header? (r : Request) (name : String) : Option String :=
  match r.headers.find? (·.1 == name) with
  | some (_, value) => if value.all isVisible then some value else none
  | none => none

end Request

namespace Response

def ofJson (status : Nat) (v : Json) : Response :=
  ⟨status, [("content-type", "application/json")], .json v⟩

def ofText (status : Nat) (s : String) : Response :=
  ⟨status, [("content-type", "text/plain; charset=utf-8")], .text s⟩

def ofStatus (status : Nat) : Response := ⟨status, [], .empty⟩

def withHeader (r : Response) (name value : String) : Response :=
  { r with headers := r.headers ++ [(name, value)] }

def withoutBody (r : Response) : Response := { r with body := .empty }

end Response

end ClusterGateway.Http
