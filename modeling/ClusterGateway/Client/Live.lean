import ClusterGateway.Client.Wire
import ClusterGateway.Describe.Tool
import ClusterGateway.Gateway.State
import ClusterGateway.Kubeconfig.Access

/-!
# A fleet over a network

Clients are built from kubeconfig files and call the API of their cluster. The network is a
parameter: it takes a request and answers it, or fails. An answer never comes at once.
-/

namespace ClusterGateway.Live

/-- A client is told from another by its number. -/
structure Client where
  number : Nat
  context : String
  access : ClusterAccess
  deriving DecidableEq, Repr

def Client.describe (c : Client) : String :=
  s!"K8sClient \x7b context_id: {Text.quoted c.context}, api_server: {Text.quoted c.access.server} \x7d"

structure World (σ : Type) where
  built : Nat
  network : σ

abbrev Network (σ : Type) := ClusterAccess → WireRequest → σ → Except ClientError WireReply × σ

variable {σ : Type}

def connect (files : Files) (c : ClusterContext) (w : World σ) : Outcome Client × World σ :=
  match c.connection.access files with
  | .error e => (.error e.failure, w)
  | .ok access => (.ok ⟨w.built + 1, c.id, access⟩, { w with built := w.built + 1 })

def outcome (result : Except ClientError Json) : Outcome Json :=
  match result with
  | .ok v => .ok v
  | .error e => .error e.failure

def call (network : Network σ) (client : Client) (c : Call) (w : World σ) :
    Reply (World σ) (Outcome Json) × World σ :=
  match c.request with
  | .error e => (.now (.error e.failure), w)
  | .ok request =>
    (.later 0 fun w =>
      let (reply, n) := network client.access request w.network
      (outcome (reply.bind (WireReply.answer c)), { w with network := n }), w)

def describe (t : DescribeTool) (c : ClusterContext) (r : ResourceKind) (ns : Option String) (name : String)
    (w : World σ) : Reply (World σ) (Outcome String) × World σ :=
  match t.run? c r ns name with
  | some (result, wait) => (.later wait fun w => (result, w), w)
  | none => (.never, w)

def fleet (files : Files) (network : Network σ) (t : DescribeTool) : Fleet (World σ) Client where
  connect c w :=
    let (result, w) := connect files c w
    (.now result, w)
  call := call network
  describe := describe t

def hasScheme (address : String) : Bool :=
  match Uri.Target.afterScheme address.toList with
  | .ok (some _) => true
  | _ => false

def unreachable : Network Unit :=
  fun access _ n =>
    let why := if hasScheme access.server then "Connect" else "UserAbsoluteUriRequired"
    (.error (.service s!"client error ({why})"), n)

end ClusterGateway.Live
