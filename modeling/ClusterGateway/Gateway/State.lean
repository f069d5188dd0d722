import ClusterGateway.Access.Gate
import ClusterGateway.Context.Registry
import ClusterGateway.Operation.Effect

/-!
# The gateway and the clusters behind it

What never changes after the start are the `Settings`; what changes is the `State`. The
clusters themselves are a `Fleet`: operations on a world of their own, which may answer at
once, later, or never. The journal tells what was started and what came of it, latest first.
-/

namespace ClusterGateway

inductive Reply (σ α : Type) where
  | now (answer : α)
  /-- The operation has to wait, at least for so long; it completes on the world of a later
  moment. -/
  | later (wait : Nat) (finish : σ → α × σ)
  | never

namespace Reply

variable {σ α β : Type}

def map (f : α → β) : Reply σ α → Reply σ β
  | now answer => now (f answer)
  | later wait finish => later wait fun s => let (answer, s) := finish s; (f answer, s)
  | never => never

def wait : Reply σ α → Nat
  | later wait _ => wait
  | now _ | never => 0

@[simp] theorem wait_map (f : α → β) (reply : Reply σ α) : (reply.map f).wait = reply.wait := by
  cases reply <;> rfl

def await? (reply : Reply σ α) (s : σ) : Option (α × σ) :=
  match reply with
  | now answer => some (answer, s)
  | later _ finish => some (finish s)
  | never => none

end Reply

/-- How clusters are reached: building a client, calling it, running the describe tool. -/
structure Fleet (σ κ : Type) where
  connect : ClusterContext → σ → Reply σ (Outcome κ) × σ
  call : κ → Call → σ → Reply σ (Outcome Json) × σ
  describe : ClusterContext → ResourceKind → Option String → String → σ → Reply σ (Outcome String) × σ

structure Settings where
  catalog : Catalog
  hidden : Hidden
  /-- How long a request without a deadline may take; none is for ever, and stands for a time too
  long for any deadline too. -/
  timeout : Option Nat

inductive Event (κ : Type) where
  | connecting (slot : SlotId)
  | connected (slot : SlotId) (client : κ)
  | refused (slot : SlotId) (failure : Failure)
  | dropped (slot : SlotId)
  | evicted (slot : SlotId)
  | called (ticket : Nat) (client : κ) (call : Call)
  | described (ticket : Nat) (context : ClusterContext) (kind : String) (ns : Option String) (name : String)
  deriving DecidableEq, Repr

structure State (σ κ : Type) where
  registry : Registry κ
  world : σ
  clock : Instant
  journal : List (Event κ)

namespace State

variable {σ κ : Type}

def record (s : State σ κ) (e : Event κ) : State σ κ :=
  { s with journal := e :: s.journal }

def put (s : State σ κ) (slot : SlotId) (content : Slot κ) : State σ κ :=
  { s with registry := s.registry.put slot content }

def atLeast (s : State σ κ) (moment : Instant) : State σ κ :=
  { s with clock := max s.clock moment }

@[simp] theorem registry_record (s : State σ κ) (e : Event κ) : (s.record e).registry = s.registry := rfl

@[simp] theorem journal_record (s : State σ κ) (e : Event κ) : (s.record e).journal = e :: s.journal := rfl

@[simp] theorem world_record (s : State σ κ) (e : Event κ) : (s.record e).world = s.world := rfl

@[simp] theorem clock_record (s : State σ κ) (e : Event κ) : (s.record e).clock = s.clock := rfl

@[simp] theorem registry_put (s : State σ κ) (slot : SlotId) (content : Slot κ) :
    (s.put slot content).registry = s.registry.put slot content := rfl

@[simp] theorem journal_put (s : State σ κ) (slot : SlotId) (content : Slot κ) :
    (s.put slot content).journal = s.journal := rfl

@[simp] theorem world_put (s : State σ κ) (slot : SlotId) (content : Slot κ) :
    (s.put slot content).world = s.world := rfl

@[simp] theorem clock_put (s : State σ κ) (slot : SlotId) (content : Slot κ) :
    (s.put slot content).clock = s.clock := rfl

@[simp] theorem registry_atLeast (s : State σ κ) (moment : Instant) : (s.atLeast moment).registry = s.registry := rfl

@[simp] theorem journal_atLeast (s : State σ κ) (moment : Instant) : (s.atLeast moment).journal = s.journal := rfl

@[simp] theorem world_atLeast (s : State σ κ) (moment : Instant) : (s.atLeast moment).world = s.world := rfl

@[simp] theorem clock_atLeast (s : State σ κ) (moment : Instant) : (s.atLeast moment).clock = max s.clock moment := rfl

def invalidate (s : State σ κ) (id : String) : Bool × State σ κ :=
  let slot := s.registry.current id
  match s.registry.invalidate id with
  | (true, registry) => (true, { s with registry }.record (.evicted slot))
  | (false, _) => (false, s)

def invalidateClient [DecidableEq κ] (s : State σ κ) (id : String) (failed : κ) : Bool × State σ κ :=
  let slot := s.registry.current id
  match s.registry.invalidateClient id failed with
  | (true, registry) => (true, { s with registry }.record (.evicted slot))
  | (false, _) => (false, s)

def evict (s : State σ κ) (id : String) : State σ κ :=
  { s with registry := s.registry.evict id }.record (.evicted (s.registry.current id))

@[simp] theorem registry_evict (s : State σ κ) (id : String) : (s.evict id).registry = s.registry.evict id := rfl

@[simp] theorem journal_evict (s : State σ κ) (id : String) :
    (s.evict id).journal = .evicted (s.registry.current id) :: s.journal := rfl

theorem invalidate_eq (s : State σ κ) (id : String) :
    s.invalidate id = if (s.registry.contexts.find? id).isSome then (true, s.evict id) else (false, s) := by
  unfold invalidate Registry.invalidate
  by_cases h : (s.registry.contexts.find? id).isSome <;> simp [h, evict]

theorem invalidateClient_eq [DecidableEq κ] (s : State σ κ) (id : String) (failed : κ) :
    s.invalidateClient id failed =
      if (s.registry.contexts.find? id).isSome ∧ s.registry.slots (s.registry.current id) = .ready failed then
        (true, s.evict id)
      else (false, s) := by
  unfold invalidateClient Registry.invalidateClient
  by_cases h : (s.registry.contexts.find? id).isSome ∧ s.registry.slots (s.registry.current id) = .ready failed
  · simp only [if_pos h, evict]
  · simp only [if_neg h]

end State

/-! ## Starting -/

inductive StartError where
  | defaultContext (id : String) (failure : Failure)
  | duplicateContext (id : String)
  | catalog (clash : NameClash)
  deriving Repr

def StartError.message : StartError → String
  | defaultContext id failure => s!"Failed to initialize default cluster context '{id}': {failure.message}"
  | duplicateContext id => s!"Cluster context '{id}' is declared more than once"
  | catalog clash => s!"Invalid resource descriptor table: {(Failure.validation clash.message).message}"

/-- Builds the client of the first context, then registers the others. The clock is that of the
moment when this is done. No state when the construction never answers. -/
def State.start? {σ κ : Type} (f : Fleet σ κ) (first : ClusterContext) (named : List ClusterContext)
    (clock : Instant) (world : σ) : Option (Except StartError (State σ κ)) :=
  let slot : SlotId := ⟨first.id, 0⟩
  let (reply, world) := f.connect first world
  match reply.await? world with
  | none => none
  | some (.error failure, _) => some (.error (.defaultContext first.id failure))
  | some (.ok client, world) =>
    match Contexts.ofList first named with
    | .error id => some (.error (.duplicateContext id))
    | .ok contexts =>
      some (.ok ⟨.start contexts client, world, clock, [.connected slot client, .connecting slot]⟩)

end ClusterGateway
