import ClusterGateway.Access.Level
import ClusterGateway.Access.Verb
import ClusterGateway.Json.Record

/-!
# Failures

Every way in which a request can fail, with its category, its text, and what goes along with
it. A failure of the connection is the only one after which a client is built anew.
-/

namespace ClusterGateway

inductive Failure where
  | unsupportedKind (kind : String)
  | verbUnsupported (kind : String) (verb : Verb)
  | insufficientAccess (kind : String) (verb : Verb) (required actual : Level)
  | unknownContext (id : String)
  | connection (text : String)
  | notFound (text : String)
  | alreadyExists (text : String)
  | validation (text : String)
  | conflict (text : String)
  | externalTool (text output : String)
  | cancelled (text : String)
  | clusterApi (code : UInt16) (text : String)
  deriving DecidableEq, Repr

namespace Failure

inductive Category where
  | unsupportedKind
  | verbUnsupported
  | insufficientAccess
  | unknownContext
  | connection
  | notFound
  | alreadyExists
  | validation
  | conflict
  | externalTool
  | cancelled
  | clusterApi
  deriving DecidableEq, Repr

namespace Category

def all : List Category :=
  [unsupportedKind, verbUnsupported, insufficientAccess, unknownContext, connection, notFound,
    alreadyExists, validation, conflict, externalTool, cancelled, clusterApi]

def name : Category → String
  | unsupportedKind => "UNSUPPORTED_KIND"
  | verbUnsupported => "VERB_UNSUPPORTED_FOR_KIND"
  | insufficientAccess => "INSUFFICIENT_ACCESS"
  | unknownContext => "UNKNOWN_CONTEXT"
  | connection => "CONNECTION_FAILURE"
  | notFound => "NOT_FOUND"
  | alreadyExists => "ALREADY_EXISTS"
  | validation => "VALIDATION_FAILURE"
  | conflict => "CONFLICT"
  | externalTool => "EXTERNAL_TOOL_FAILURE"
  | cancelled => "CANCELLED"
  | clusterApi => "CLUSTER_API"

def ofName? (s : String) : Option Category :=
  all.find? fun c => c.name == s

@[simp] theorem ofName?_name (c : Category) : ofName? c.name = some c := by
  cases c <;> decide

/-- The status of an HTTP answer; of the cluster's own codes only three are passed on. -/
def httpStatus (c : Category) (code : Option UInt16) : Nat :=
  match c with
  | unsupportedKind => 400
  | verbUnsupported => 405
  | insufficientAccess => 403
  | unknownContext => 404
  | connection => 503
  | notFound => 404
  | alreadyExists => 409
  | conflict => 409
  | validation => 422
  | externalTool => 502
  | cancelled => 504
  | clusterApi =>
    match code with
    | some code => if code = 401 ∨ code = 403 ∨ code = 429 then code.toNat else 502
    | none => 502

end Category

def category : Failure → Category
  | unsupportedKind _ => .unsupportedKind
  | verbUnsupported _ _ => .verbUnsupported
  | insufficientAccess _ _ _ _ => .insufficientAccess
  | unknownContext _ => .unknownContext
  | connection _ => .connection
  | notFound _ => .notFound
  | alreadyExists _ => .alreadyExists
  | validation _ => .validation
  | conflict _ => .conflict
  | externalTool _ _ => .externalTool
  | cancelled _ => .cancelled
  | clusterApi _ _ => .clusterApi

def message : Failure → String
  | unsupportedKind kind => s!"Unsupported resource kind: {kind}"
  | verbUnsupported kind verb => s!"{verb} is not available for {kind}"
  | insufficientAccess kind verb required actual =>
    s!"{verb} on {kind} requires {required} access (caller has {actual})"
  | unknownContext id => s!"Unknown cluster context: {id}"
  | connection text => s!"Cluster connection failed: {text}"
  | notFound text => s!"Resource not found: {text}"
  | alreadyExists text => s!"Resource already exists: {text}"
  | validation text => s!"Validation failed: {text}"
  | conflict text => s!"Conflict: {text}"
  | externalTool text _ => s!"External tool failed: {text}"
  | cancelled text => s!"Operation cancelled: {text}"
  | clusterApi code text => s!"Kubernetes API error ({code.toNat}): {text}"

def detail? : Failure → Option String
  | externalTool _ output => some output
  | _ => none

def code? : Failure → Option UInt16
  | clusterApi code _ => some code
  | _ => none

def isConnection : Failure → Bool
  | connection _ => true
  | _ => false

def expired (what : String) : Failure :=
  cancelled s!"{what} exceeded the request deadline"

end Failure

abbrev Outcome (α : Type) := Except Failure α

end ClusterGateway
