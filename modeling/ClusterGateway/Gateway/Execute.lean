import ClusterGateway.Envelope
import ClusterGateway.Gateway.Task

/-!
# Running one request alone

With nothing else going on a task takes its steps one after the other. Where it has to wait and
its deadline has passed, it is dropped; what is there at once is taken however late it is. The
clock moves on while the task waits, to the moment of the answer or, where none will be there in
time, to the deadline.
-/

namespace ClusterGateway

variable {σ κ : Type} [DecidableEq κ]

/-- At most so many steps; no result when the task waits for ever. -/
def Task.run (g : Settings) (f : Fleet σ κ) :
    Nat → Task σ κ → State σ κ → Option (Outcome (Answer κ)) × State σ κ
  | 0, t, s => (t.result?, s)
  | n + 1, t, s =>
    if t.result?.isSome then (t.result?, s)
    else if t.waits s && t.isDue s then
      let (t, s) := t.abandon s
      Task.run g f n t s
    else if t.isStuck s then
      match t.deadline with
      | none => (none, s)
      | some d =>
        let (t, s) := t.abandon (s.atLeast d)
        Task.run g f n t s
    else
      let (t, s) := t.advance g f s
      Task.run g f n t s

/-- Each step lowers the rank, so these steps are enough. -/
def Task.finish (g : Settings) (f : Fleet σ κ) (t : Task σ κ) (s : State σ κ) :
    Option (Outcome (Answer κ)) × State σ κ :=
  t.run g f t.stage.rank s

def Answer.toJson : Answer κ → Json
  | .value v => v
  | .resolved _ _ => .null

namespace Gateway

def execute (g : Settings) (f : Fleet σ κ) (p : Principal) (q : Request) (s : State σ κ) :
    Option Envelope × State σ κ :=
  let (result, s) := (Task.start 0 (.execute p q)).finish g f s
  (result.map fun r => .ofOutcome (r.map Answer.toJson), s)

def resolve (g : Settings) (f : Fleet σ κ) (id : Option String) (s : State σ κ) :
    Option (Outcome (Answer κ)) × State σ κ :=
  (Task.start 0 (.resolve id)).finish g f s

def dispatch (g : Settings) (f : Fleet σ κ) (kind : ResourceKind) (q : Request) (context : ClusterContext)
    (client : κ) (s : State σ κ) : Option (Outcome Json) × State σ κ :=
  let (result, s) := (Task.onClient 0 kind q context client).finish g f s
  (result.map fun r => r.map Answer.toJson, s)

def templates (g : Settings) (p : Principal) : Envelope :=
  .ofOutcome ((p.require .user).map fun _ => .arr (g.catalog.templates.map Template.toJson))

def kinds (g : Settings) (p : Principal) : Envelope :=
  .result (.ofStrings (g.catalog.supported p.level))

def contexts (s : State σ κ) (p : Principal) : Envelope :=
  .ofOutcome ((p.require .reader).map fun _ => .arr s.registry.summaries)

end Gateway

end ClusterGateway
