import ClusterGateway.Gateway.Execute

/-!
# Several requests at once

A pool is a state with the tasks that run on it. A run is a list of moves in any order at
all. `settle` is the run of one thread that polls every task in turn: a task goes on until it
has to wait, and when none can go on the clock moves to the next moment at which one can, or has
to be dropped.
-/

namespace ClusterGateway

structure Pool (σ κ : Type) where
  tasks : List (Task σ κ)
  state : State σ κ

inductive Move (κ : Type) where
  | advance (i : Nat)
  | abandon (i : Nat)
  | invalidate (id : String)
  | invalidateClient (id : String) (client : κ)
  /-- Time passes, until this moment at least. -/
  | tick (moment : Instant)

namespace Pool

variable {σ κ : Type} [DecidableEq κ] (g : Settings) (f : Fleet σ κ)

def ofJobs (jobs : List Job) (s : State σ κ) : Pool σ κ :=
  ⟨jobs.mapIdx Task.start, s⟩

def step (p : Pool σ κ) : Move κ → Pool σ κ
  | .advance i =>
    match p.tasks[i]? with
    | none => p
    | some t =>
      let (t, state) := t.advance g f p.state
      ⟨p.tasks.set i t, state⟩
  | .abandon i =>
    match p.tasks[i]? with
    | none => p
    | some t =>
      let (t, state) := t.abandon p.state
      ⟨p.tasks.set i t, state⟩
  | .invalidate id => { p with state := (p.state.invalidate id).2 }
  | .invalidateClient id client => { p with state := (p.state.invalidateClient id client).2 }
  | .tick moment => { p with state := p.state.atLeast moment }

def run (p : Pool σ κ) (moves : List (Move κ)) : Pool σ κ :=
  moves.foldl (step g f) p

/-- Takes one task as far as it goes without waiting, and drops what it waits for too late. -/
def poll (i : Nat) : Nat → Pool σ κ → Pool σ κ
  | 0, p => p
  | n + 1, p =>
    match p.tasks[i]? with
    | none => p
    | some t =>
      if t.result?.isSome then p
      else
        let p := if t.isStuck p.state || t.isEarly p.state then p else p.step g f (.advance i)
        match p.tasks[i]? with
        | none => p
        | some t =>
          if t.waits p.state then
            if t.isDue p.state then poll i n (p.step g f (.abandon i)) else p
          else poll i n p

def rank (p : Pool σ κ) : Nat :=
  (p.tasks.map (·.stage.rank)).foldl (· + ·) 0

def round (p : Pool σ κ) : Pool σ κ :=
  (List.range p.tasks.length).foldl (fun p i => poll g f i 8 p) p

def nextMoment? (p : Pool σ κ) : Option Instant :=
  (p.tasks.filter fun t => t.result?.isNone).flatMap (fun t => t.due?.toList ++ t.deadline.toList) |>.min?

def settle (p : Pool σ κ) : Pool σ κ :=
  let next := p.round g f
  if _ : next.rank < p.rank then settle next
  else
    match next.nextMoment? with
    | none => next
    | some moment =>
      let later := (next.step g f (.tick moment)).round g f
      if _ : later.rank < p.rank then settle later else next
termination_by p.rank

def results (p : Pool σ κ) : List (Option (Outcome (Answer κ))) :=
  p.tasks.map (·.result?)

end Pool

namespace Gateway

variable {σ κ : Type} [DecidableEq κ]

def runAll (g : Settings) (f : Fleet σ κ) (jobs : List Job) (s : State σ κ) :
    List (Option (Outcome (Answer κ))) × State σ κ :=
  let p := (Pool.ofJobs jobs s).settle g f
  (p.results, p.state)

def executeAll (g : Settings) (f : Fleet σ κ) (p : Principal) (qs : List Request) (s : State σ κ) :
    List (Option Envelope) × State σ κ :=
  let (results, s) := runAll g f (qs.map (.execute p)) s
  (results.map fun r => r.map fun r => .ofOutcome (r.map Answer.toJson), s)

end Gateway

end ClusterGateway
