import ClusterGateway.Failure

/-!
# Envelopes

The form in which every outcome is handed to a caller: a value, or a fault with its category,
its text and, if there is one, an output that is not empty or a code.
-/

namespace ClusterGateway

structure Fault where
  category : Failure.Category
  message : String
  detail : Option String
  code : Option UInt16
  deriving DecidableEq, Repr

namespace Fault

def ofFailure (f : Failure) : Fault :=
  ⟨f.category, f.message, f.detail?.filter fun d => !d.isEmpty, f.code?⟩

def toJson (f : Fault) : Json :=
  .ofFields <|
    [("kind", .str f.category.name), ("message", .str f.message)] ++
      (f.detail.map fun d => ("detail", Json.str d)).toList ++
      (f.code.map fun c => ("code", Json.ofNat c.toNat)).toList

def ofJson? (v : Json) : Option Fault := do
  let field ← v.record? ["kind", "message", "detail", "code"]
  let category ← Failure.Category.ofName? (← (← field "kind").tag?)
  let message ← (← field "message").string?
  let detail ← Json.optional? Json.string? (field "detail")
  let code ← Json.optional? Json.uint16? (field "code")
  return ⟨category, message, detail, code⟩

end Fault

inductive Envelope where
  | result (value : Json)
  | error (fault : Fault)
  deriving DecidableEq, Repr

namespace Envelope

def ofOutcome : Outcome Json → Envelope
  | .ok value => result value
  | .error failure => error (.ofFailure failure)

def isSuccess : Envelope → Bool
  | result _ => true
  | error _ => false

def value? : Envelope → Option Json
  | result value => some value
  | error _ => none

def fault? : Envelope → Option Fault
  | result _ => none
  | error fault => some fault

def toExcept : Envelope → Except Fault Json
  | result value => .ok value
  | error fault => .error fault

def toJson : Envelope → Json
  | result value => .obj [("result", value)]
  | error fault => .obj [("error", fault.toJson)]

def ofJson? (v : Json) : Option Envelope := do
  let (tag, content) ← v.single?
  if tag == "result" then return .result content
  else if tag == "error" then return .error (← Fault.ofJson? content)
  else none

def httpStatus : Envelope → Nat
  | result _ => 200
  | error fault => fault.category.httpStatus fault.code

end Envelope

end ClusterGateway
