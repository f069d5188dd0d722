import ClusterGateway.Describe.Tool
import ClusterGateway.Gateway.State
import ClusterGateway.Json.Printer
import ClusterGateway.Simulated.Store

/-!
# A fleet in memory

Clusters that can be told to hang, to take a moment, and to fail next time. Clients are
numbered as they are built; the store of a context outlives its clients.
-/

namespace ClusterGateway.Simulated

structure Client where
  context : String
  number : Nat
  deriving DecidableEq, Repr

structure World where
  stores : List (String × Store)
  built : Nat
  callFailures : List Failure
  connectFailures : List Failure
  hangCalls : Bool
  hangConnect : Bool
  slowConnect : Bool

namespace World

def empty : World := ⟨[], 0, [], [], false, false, false⟩

def store (w : World) (context : String) : Store :=
  (Json.Fields.get? context w.stores).getD .empty

def putStore (w : World) (context : String) (s : Store) : World :=
  { w with stores := Json.Fields.insert context s w.stores }

end World

def unreachable : String := "unreachable"

def build (c : ClusterContext) (w : World) : Outcome Client × World :=
  match w.connectFailures with
  | failure :: rest => (.error failure, { w with connectFailures := rest })
  | [] =>
    if c.id.startsWith unreachable then (.error (.connection s!"{c.id}: connection refused"), w)
    else
      let number := w.built + 1
      (.ok ⟨c.id, number⟩, { w with built := number })

def connect (c : ClusterContext) (w : World) : Reply World (Outcome Client) × World :=
  if w.hangConnect then (.never, w)
  else if w.slowConnect then (.later 0 (build c), w)
  else
    let (outcome, w) := build c w
    (.now outcome, w)

def call (client : Client) (c : Call) (w : World) : Reply World (Outcome Json) × World :=
  if w.hangCalls then (.never, w)
  else match w.callFailures with
  | failure :: rest => (.now (.error failure), { w with callFailures := rest })
  | [] =>
    let (outcome, s) := (w.store client.context).perform c
    (.now outcome, w.putStore client.context s)

inductive Describer where
  | tool (t : DescribeTool)
  | hang
  | fail (output : String)
  | echo

def Describer.describe (d : Describer) (c : ClusterContext) (r : ResourceKind) (ns : Option String)
    (name : String) (w : World) : Reply World (Outcome String) × World :=
  match d with
  | .tool t =>
    match t.run? c r ns name with
    | some (outcome, wait) => (.later wait fun w => (outcome, w), w)
    | none => (.never, w)
  | .hang => (.never, w)
  | .fail output => (.now (.error (.externalTool s!"describe {r.name} unavailable" output)), w)
  | .echo =>
    (.now (.ok (Json.ofStrings (DescribeTool.standard.arguments c r ns name)).render), w)

def fleet (d : Describer) : Fleet World Client where
  connect := connect
  call := call
  describe := d.describe

end ClusterGateway.Simulated
