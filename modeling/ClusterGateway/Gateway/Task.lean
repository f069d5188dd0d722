import ClusterGateway.Gateway.State

/-!
# One request, step by step

A task is a job with the stage that it has reached. `advance` takes it one step on, each step
reading or changing the state once, so that steps of several tasks may come in any order. Where
the task waits for an answer the step ends the wait, and the clock is then at the moment of the
answer or later. A task that waits may be dropped instead, as happens at its deadline, which is
one moment for all that the task waits for.

The callers of one slot share a construction: the first that finds the slot empty starts one,
and the others wait until the slot is filled or empty again.
-/

namespace ClusterGateway

inductive Job where
  | resolve (context : Option String)
  | execute (principal : Principal) (request : Request)

inductive Errand where
  | handOver
  | operate (kind : ResourceKind) (request : Request)

inductive Answer (κ : Type) where
  | resolved (context : ClusterContext) (client : κ)
  | value (v : Json)

inductive Stage (σ κ : Type) where
  | arrived
  | resolving (errand : Errand) (context : ClusterContext) (slot : SlotId)
  /-- Building the client; without `finish` it never ends by itself. -/
  | connecting (errand : Errand) (context : ClusterContext) (slot : SlotId)
      (finish : Option (σ → Outcome κ × σ))
  | resolved (errand : Errand) (context : ClusterContext) (client : κ)
  | calling (what : String) (context : ClusterContext) (client : κ) (finish : Option (σ → Outcome Json × σ))
  | answered (context : ClusterContext) (client : κ) (outcome : Outcome Json)
  | finished (result : Outcome (Answer κ))

structure Task (σ κ : Type) where
  ticket : Nat
  job : Job
  deadline : Option Instant
  /-- When the answer is there that the task waits for, if it waits for one. -/
  due : Instant
  stage : Stage σ κ

namespace Stage

variable {σ κ : Type}

def rank : Stage σ κ → Nat
  | arrived => 6
  | resolving _ _ _ => 5
  | connecting _ _ _ _ => 4
  | resolved _ _ _ => 3
  | calling _ _ _ _ => 2
  | answered _ _ _ => 1
  | finished _ => 0

end Stage

namespace Task

variable {σ κ : Type} [DecidableEq κ]

def start (ticket : Nat) (job : Job) : Task σ κ :=
  ⟨ticket, job, none, 0, .arrived⟩

def onClient (ticket : Nat) (kind : ResourceKind) (request : Request) (context : ClusterContext)
    (client : κ) : Task σ κ :=
  ⟨ticket, .resolve (some context.id), request.deadline, 0, .resolved (.operate kind request) context client⟩

def goTo (t : Task σ κ) (stage : Stage σ κ) : Task σ κ := { t with stage }

def dueAt (t : Task σ κ) (due : Instant) : Task σ κ := { t with due }

section
omit [DecidableEq κ]
variable (t : Task σ κ) (stage stage' : Stage σ κ) (due : Instant)

@[simp] theorem goTo_goTo : (t.goTo stage).goTo stage' = t.goTo stage' := rfl

@[simp] theorem deadline_goTo : (t.goTo stage).deadline = t.deadline := rfl

@[simp] theorem due_goTo : (t.goTo stage).due = t.due := rfl

@[simp] theorem deadline_dueAt : (t.dueAt due).deadline = t.deadline := rfl

@[simp] theorem due_dueAt : (t.dueAt due).due = due := rfl

end

def result? (t : Task σ κ) : Option (Outcome (Answer κ)) :=
  match t.stage with
  | .finished result => some result
  | _ => none

section
variable (g : Settings) (f : Fleet σ κ) (t : Task σ κ) (s : State σ κ)

def lookUp (errand : Errand) (context : Option String) : Task σ κ :=
  match s.registry.contexts.select context with
  | .error failure => t.goTo (.finished (.error failure))
  | .ok context => t.goTo (.resolving errand context (s.registry.current context.id))

def arrive : Task σ κ :=
  match t.job with
  | .resolve context => t.lookUp s .handOver context
  | .execute principal request =>
    match g.catalog.authorize principal request.kind request.verb with
    | .error failure => t.goTo (.finished (.error failure))
    | .ok kind =>
      let deadline := request.deadline.or (g.timeout.map (s.clock + ·))
      { t with deadline }.lookUp s (.operate kind request) request.context

def connected (errand : Errand) (context : ClusterContext) (slot : SlotId) (outcome : Outcome κ) :
    Task σ κ × State σ κ :=
  match outcome with
  | .ok client =>
    (t.goTo (.resolved errand context client), (s.put slot (.ready client)).record (.connected slot client))
  | .error failure =>
    (t.goTo (.finished (.error failure)), (s.put slot .empty).record (.refused slot failure))

/-- What is not there by the deadline is as good as never there, and so is all that there is to
wait for once the deadline has passed. -/
def inTime {α : Type} (wait : Nat) (finish : α) : Option α :=
  if t.deadline.all fun d => s.clock < d ∧ s.clock + wait ≤ d then some finish else none

def connect (errand : Errand) (context : ClusterContext) (slot : SlotId) : Task σ κ × State σ κ :=
  let (reply, world) := f.connect context s.world
  let s := { s with world }.record (.connecting slot)
  match reply with
  | .now outcome => t.connected s errand context slot outcome
  | .later wait finish =>
    ((t.dueAt (s.clock + wait)).goTo (.connecting errand context slot (t.inTime s wait finish)),
      s.put slot .building)
  | .never => (t.goTo (.connecting errand context slot none), s.put slot .building)

def perform (kind : ResourceKind) (context : ClusterContext) (client : κ) (e : Effect) :
    Reply σ (Outcome Json) × State σ κ :=
  match e with
  | .call call =>
    let (reply, world) := f.call client call s.world
    (reply, { s with world }.record (.called t.ticket client call))
  | .describe ns name =>
    let (reply, world) := f.describe context kind ns name s.world
    (reply.map fun outcome => outcome.map Json.str,
      { s with world }.record (.described t.ticket context kind.name ns name))

def operate (kind : ResourceKind) (request : Request) (context : ClusterContext) (client : κ) :
    Task σ κ × State σ κ :=
  match Effect.ofRequest kind request with
  | .error failure => (t.goTo (.answered context client (.error failure)), s)
  | .ok e =>
    let (reply, s) := t.perform f s kind context client e
    let what := s!"{request.verb} {kind.name}"
    match reply.map fun outcome => outcome.map (e.conclude g.hidden kind) with
    | .now outcome => (t.goTo (.answered context client outcome), s)
    | .later wait finish =>
      ((t.dueAt (s.clock + wait)).goTo (.calling what context client (t.inTime s wait finish)), s)
    | .never => (t.goTo (.calling what context client none), s)

/-- A client whose connection failed is not handed out again. -/
def answer (context : ClusterContext) (client : κ) (outcome : Outcome Json) : Task σ κ × State σ κ :=
  let t := t.goTo (.finished (outcome.map .value))
  match outcome with
  | .error failure => (t, if failure.isConnection then (s.invalidateClient context.id client).2 else s)
  | .ok _ => (t, s)

def advance : Task σ κ × State σ κ :=
  match t.stage with
  | .arrived => (t.arrive g s, s)
  | .resolving errand context slot =>
    match s.registry.slots slot with
    | .ready client => (t.goTo (.resolved errand context client), s)
    | .building => (t, s)
    | .empty => t.connect f s errand context slot
  | .connecting errand context slot finish =>
    match finish with
    | none => (t, s)
    | some finish =>
      let (outcome, world) := finish s.world
      t.connected { s.atLeast t.due with world } errand context slot outcome
  | .resolved errand context client =>
    match errand with
    | .handOver => (t.goTo (.finished (.ok (.resolved context client))), s)
    | .operate kind request => t.operate g f s kind request context client
  | .calling _ context client finish =>
    match finish with
    | none => (t, s)
    | some finish =>
      let (outcome, world) := finish s.world
      (t.goTo (.answered context client outcome), { s.atLeast t.due with world })
  | .answered context client outcome => t.answer s context client outcome
  | .finished _ => (t, s)

def abandon : Task σ κ × State σ κ :=
  match t.stage with
  | .resolving _ _ _ => (t.goTo (.finished (.error (.expired "context resolve"))), s)
  | .connecting _ _ slot _ =>
    (t.goTo (.finished (.error (.expired "context resolve"))), (s.put slot .empty).record (.dropped slot))
  | .calling what context client _ => (t.goTo (.answered context client (.error (.expired what))), s)
  | _ => (t, s)

/-- Whether the task waits, be it that the next step would take it on. -/
def waits : Bool :=
  match t.stage with
  | .resolving _ _ slot => match s.registry.slots slot with
    | .building => true
    | _ => false
  | .connecting _ _ _ _ | .calling _ _ _ _ => true
  | _ => false

def isStuck : Bool :=
  match t.stage with
  | .connecting _ _ _ finish => finish.isNone
  | .calling _ _ _ finish => finish.isNone
  | _ => t.waits s

def isDue : Bool := t.deadline.any (· ≤ s.clock)

def due? : Option Instant :=
  match t.stage with
  | .connecting _ _ _ (some _) | .calling _ _ _ (some _) => some t.due
  | _ => none

def isEarly : Bool := t.due?.any (s.clock < ·)

end

end Task

end ClusterGateway
