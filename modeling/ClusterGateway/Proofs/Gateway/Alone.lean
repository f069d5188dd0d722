import ClusterGateway.Gateway.Execute
import ClusterGateway.Proofs.Gateway.Turn
import ClusterGateway.Proofs.Operation.Plan

/-!
# What a task alone comes to

A task that runs alone is a composition of three parts: the client is fetched, the effect is
performed, and a client that proved unreachable is given up. Where it has to wait it waits
until its deadline, and the clock moves on meanwhile, so that what it waits for first is time that
the rest does not have. The steps that it takes in between are enough.
-/

namespace ClusterGateway

variable {σ κ : Type}

/-! ## Waiting until a deadline -/

inductive Awaited (σ α : Type) where
  | answered (answer : α) (world : σ)
  | late (deadline : Instant)
  | never

/-- What is there at once is taken however late it is, and nothing else after the deadline. -/
def Reply.awaitUntil {α : Type} (reply : Reply σ α) (deadline : Option Instant) (clock : Instant) (world : σ) :
    Awaited σ α :=
  match reply with
  | .now answer => .answered answer world
  | .later wait finish =>
    match deadline.filter fun d => d ≤ clock ∨ d < clock + wait with
    | some d => .late d
    | none =>
      let (answer, world) := finish world
      .answered answer world
  | .never =>
    match deadline with
    | some d => .late d
    | none => .never

theorem Reply.wait_of_awaitUntil {α : Type} {reply : Reply σ α} {d clock : Instant} {world world' : σ} {answer : α}
    (h : reply.awaitUntil (some d) clock world = .answered answer world') :
    reply.wait = 0 ∨ clock < d ∧ clock + reply.wait ≤ d := by
  cases reply with
  | now answer => exact .inl rfl
  | later wait finish =>
    have hlate : ¬ (d ≤ clock ∨ d < clock + wait) := by
      intro hlate
      simp only [awaitUntil, Option.filter_some, hlate, decide_true, if_true] at h
      cases h
    obtain ⟨hd, hwait⟩ := not_or.mp hlate
    exact .inr ⟨Nat.lt_of_not_le hd, Nat.le_of_not_lt hwait⟩
  | never => cases h

theorem Reply.wait_le_of_awaitUntil {α : Type} {reply : Reply σ α} {d clock : Instant} {world world' : σ} {answer : α}
    (h : reply.awaitUntil (some d) clock world = .answered answer world') : clock + reply.wait ≤ max clock d := by
  rcases wait_of_awaitUntil h with hnow | ⟨-, hle⟩
  · rw [hnow, Nat.add_zero]
    exact Nat.le_max_left ..
  · exact Nat.le_trans hle (Nat.le_max_right ..)

theorem Reply.late_of_awaitUntil {α : Type} {reply : Reply σ α} {deadline : Option Instant} {clock d : Instant}
    {world : σ} (h : reply.awaitUntil deadline clock world = .late d) : deadline = some d := by
  cases reply with
  | now answer => cases h
  | later wait finish =>
    simp only [awaitUntil] at h
    split at h
    · next hd =>
      cases h
      exact (Option.filter_eq_some_iff.mp hd).1
    · cases h
  | never =>
    simp only [awaitUntil] at h
    split at h <;> cases h
    rfl

def Awaited.pending {α : Type} (finish : Option (σ → α × σ)) (deadline : Option Instant) (clock : Instant)
    (world : σ) : Awaited σ α :=
  match deadline.filter fun d => d ≤ clock ∨ finish.isNone = true with
  | some d => .late d
  | none =>
    match finish with
    | some finish =>
      let (answer, world) := finish world
      .answered answer world
    | none => .never

namespace State

def later (s : State σ κ) (wait : Nat) : State σ κ := { s with clock := s.clock + wait }

theorem atLeast_add (s : State σ κ) (wait : Nat) : s.atLeast (s.clock + wait) = s.later wait := by
  rw [atLeast, later, Nat.max_eq_right (Nat.le_add_right _ _)]

def heed [DecidableEq κ] (s : State σ κ) (context : ClusterContext) (client : κ) (outcome : Outcome Json) :
    State σ κ :=
  match outcome with
  | .error failure => if failure.isConnection then (s.invalidateClient context.id client).2 else s
  | .ok _ => s

/-- The client in a slot, built if there is none. -/
def fetch (f : Fleet σ κ) (deadline : Option Instant) (context : ClusterContext) (slot : SlotId)
    (s : State σ κ) : Option (Outcome κ) × State σ κ :=
  match s.registry.slots slot with
  | .ready client => (some (.ok client), s)
  | .building =>
    match deadline with
    | some d => (some (.error (.expired "context resolve")), s.atLeast d)
    | none => (none, s)
  | .empty =>
    let (reply, world) := f.connect context s.world
    let s := { s with world }.record (.connecting slot)
    match reply.awaitUntil deadline s.clock world with
    | .answered outcome world =>
      (some outcome, { s.later reply.wait with world }.settle slot outcome)
    | .late d =>
      (some (.error (.expired "context resolve")), ((s.atLeast d).put slot .empty).record (.dropped slot))
    | .never => (none, s.put slot .building)

def connecting (f : Fleet σ κ) (context : ClusterContext) (slot : SlotId) (s : State σ κ) : State σ κ :=
  { s with world := (f.connect context s.world).2 }.record (.connecting slot)

inductive Fetched (f : Fleet σ κ) (deadline : Option Instant) (context : ClusterContext) (slot : SlotId)
    (s : State σ κ) : Option (Outcome κ) × State σ κ → Prop
  | found {client : κ} (hslot : s.registry.slots slot = .ready client) :
    Fetched f deadline context slot s (some (.ok client), s)
  | expired {d : Instant} (hslot : s.registry.slots slot = .building) (hd : deadline = some d) :
    Fetched f deadline context slot s (some (.error (.expired "context resolve")), s.atLeast d)
  | stuck (hslot : s.registry.slots slot = .building) (hd : deadline = none) :
    Fetched f deadline context slot s (none, s)
  | settled {outcome : Outcome κ} {world : σ} (hslot : s.registry.slots slot = .empty)
    (hreply : (f.connect context s.world).1.awaitUntil deadline s.clock (f.connect context s.world).2 =
      .answered outcome world) :
    Fetched f deadline context slot s (some outcome,
      { (s.connecting f context slot).later (f.connect context s.world).1.wait with world }.settle slot outcome)
  | dropped {d : Instant} (hslot : s.registry.slots slot = .empty)
    (hreply : (f.connect context s.world).1.awaitUntil deadline s.clock (f.connect context s.world).2 = .late d) :
    Fetched f deadline context slot s (some (.error (.expired "context resolve")),
      (((s.connecting f context slot).atLeast d).put slot .empty).record (.dropped slot))
  | hung (hslot : s.registry.slots slot = .empty)
    (hreply : (f.connect context s.world).1.awaitUntil deadline s.clock (f.connect context s.world).2 = .never) :
    Fetched f deadline context slot s (none, (s.connecting f context slot).put slot .building)

theorem fetched_of_eq {f : Fleet σ κ} {deadline : Option Instant} {context : ClusterContext} {slot : SlotId}
    {s : State σ κ} {r : Option (Outcome κ) × State σ κ} (h : s.fetch f deadline context slot = r) :
    Fetched f deadline context slot s r := by
  subst h
  unfold fetch
  cases hslot : s.registry.slots slot with
  | ready client => exact .found hslot
  | building =>
    cases hd : deadline with
    | none => exact .stuck hslot rfl
    | some d => exact .expired hslot rfl
  | empty =>
    simp only
    split
    · next hreply => exact .settled hslot hreply
    · next hreply => exact .dropped hslot hreply
    · next hreply => exact .hung hslot hreply

def perform [DecidableEq κ] (g : Settings) (f : Fleet σ κ) (ticket : Nat) (deadline : Option Instant)
    (kind : ResourceKind) (verb : Verb) (context : ClusterContext) (client : κ) (e : Effect) (s : State σ κ) :
    Option (Outcome Json) × State σ κ :=
  let (reply, world) := e.start f kind context client s.world
  let s := { s with world }.record (e.event ticket kind context client)
  match (reply.map fun outcome => outcome.map (e.conclude g.hidden kind)).awaitUntil deadline s.clock world with
  | .answered outcome world =>
    (some outcome, { s.later reply.wait with world }.heed context client outcome)
  | .late d => (some (.error (.expired s!"{verb} {kind.name}")), s.atLeast d)
  | .never => (none, s)

end State

namespace Task

/-! ## Steps that are left -/

section
variable (t : Task σ κ) (s : State σ κ)

theorem waits_of_isStuck (h : t.isStuck s = true) : t.waits s = true := by
  unfold isStuck at h
  split at h
  · next hs => simp [waits, hs]
  · next hs => simp [waits, hs]
  · exact h

theorem result?_of_waits (h : t.waits s = true) : t.result? = none := by
  unfold waits at h
  split at h
  · next hs => simp [result?, hs]
  · next hs => simp [result?, hs]
  · next hs => simp [result?, hs]
  · cases h

theorem rank_abandon (h : t.waits s = true) (s' : State σ κ) (hr : s'.registry = s.registry) :
    (t.abandon s').1.stage.rank < t.stage.rank := by
  rcases t.abandon_turns s' with hn | ⟨_, hw⟩
  · exact hn.2.2.rank_lt
  · simp only [waits, hr] at hw h
    rw [hw] at h
    cases h

theorem stage_of_rank (h : t.stage.rank = 0) : t.result?.isSome = true := by
  cases hs : t.stage <;> simp [hs, Stage.rank] at h
  simp [result?, hs]

end

/-! ## Deadlines -/

theorem late_iff (d clock wait : Nat) : (d ≤ clock ∨ d < clock + wait) ↔ ¬ (clock < d ∧ clock + wait ≤ d) := by
  omega

/-- What is not in time is as good as never there. -/
theorem awaitUntil_later {α : Type} (t : Task σ κ) (s : State σ κ) (wait : Nat) (finish : σ → α × σ) (world : σ) :
    (Reply.later wait finish).awaitUntil t.deadline s.clock world =
      .pending (t.inTime s wait finish) t.deadline s.clock world := by
  unfold Reply.awaitUntil Awaited.pending inTime
  cases t.deadline with
  | none => simp
  | some d =>
    simp only [Option.filter_some, Option.all_some, decide_eq_true_eq, late_iff]
    by_cases hin : s.clock < d ∧ s.clock + wait ≤ d
    · simp [hin, Nat.not_le.mpr hin.1]
    · simp [hin]

theorem awaitUntil_never {α : Type} (deadline : Option Instant) (clock : Instant) (world : σ) :
    (Reply.never : Reply σ α).awaitUntil deadline clock world = .pending none deadline clock world := by
  unfold Reply.awaitUntil Awaited.pending
  cases deadline with
  | none => rfl
  | some d => simp only [Option.filter_some, Option.isNone_none, or_true, decide_true, if_true]

variable [DecidableEq κ] (g : Settings) (f : Fleet σ κ)

theorem rank_advance (t : Task σ κ) (s : State σ κ) (hr : t.result?.isSome = false) (hs : t.isStuck s = false) :
    (t.advance g f s).1.stage.rank < t.stage.rank := by
  rcases t.advance_turns g f s with hn | ⟨_, hd | hd⟩
  · exact hn.2.2.rank_lt
  · rw [hr] at hd
    cases hd
  · rw [hs] at hd
    cases hd

theorem run_congr {n m : Nat} {t : Task σ κ} {s : State σ κ} (hn : t.stage.rank ≤ n) (hm : t.stage.rank ≤ m) :
    t.run g f n s = t.run g f m s := by
  induction n generalizing m t s with
  | zero =>
    have hdone := t.stage_of_rank (Nat.le_zero.mp hn)
    cases m <;> simp [run, hdone]
  | succ n ih =>
    cases m with
    | zero =>
      have hdone := t.stage_of_rank (Nat.le_zero.mp hm)
      simp [run, hdone]
    | succ m =>
      have step : ∀ {t' : Task σ κ} {s' : State σ κ}, t'.stage.rank < t.stage.rank →
          t'.run g f n s' = t'.run g f m s' :=
        fun h => ih (Nat.le_of_lt_succ (Nat.lt_of_lt_of_le h hn)) (Nat.le_of_lt_succ (Nat.lt_of_lt_of_le h hm))
      unfold run
      split
      · rfl
      · next hr =>
        split
        · next hw =>
          exact step (t.rank_abandon s (Bool.and_eq_true _ _ ▸ hw).1 s rfl)
        · split
          · next hs =>
            split
            · rfl
            · exact step (t.rank_abandon s (t.waits_of_isStuck s hs) _ rfl)
          · next hs => exact step (t.rank_advance g f s (by simpa using hr) (by simpa using hs))

theorem finish_of_result? {t : Task σ κ} {s : State σ κ} {result : Outcome (Answer κ)}
    (h : t.result? = some result) : t.finish g f s = (some result, s) := by
  unfold finish
  cases t.stage.rank <;> simp [run, h]

theorem finish_of_not_waits {t : Task σ κ} {s : State σ κ} (hr : t.result? = none) (hw : t.waits s = false) :
    t.finish g f s = (t.advance g f s).1.finish g f (t.advance g f s).2 := by
  have hs : t.isStuck s = false := by
    cases hs : t.isStuck s with
    | false => rfl
    | true => rw [← hw, t.waits_of_isStuck s hs]
  have hlt := t.rank_advance g f s (by simp [hr]) hs
  obtain ⟨n, hn⟩ := Nat.exists_eq_add_of_lt hlt
  unfold finish
  rw [hn]
  simp only [run, hr, hw, hs, Option.isSome_none, Bool.false_and, Bool.false_eq_true, if_false]
  exact run_congr g f (Nat.le_add_right _ _) (Nat.le_refl _)

theorem finish_of_waits {t : Task σ κ} {s : State σ κ} (hw : t.waits s = true) :
    t.finish g f s =
      match t.deadline.filter fun d => d ≤ s.clock ∨ t.isStuck s = true with
      | some d => (t.abandon (s.atLeast d)).1.finish g f (t.abandon (s.atLeast d)).2
      | none =>
        if t.isStuck s then (none, s) else (t.advance g f s).1.finish g f (t.advance g f s).2 := by
  have hr := t.result?_of_waits s hw
  have hnone : (t.result?.isSome) = false := by simp [hr]
  obtain ⟨n, hn⟩ : ∃ n, t.stage.rank = n + 1 := by
    have hlt := t.rank_abandon s hw s rfl
    exact Nat.exists_eq_add_one.mpr (Nat.lt_of_le_of_lt (Nat.zero_le _) hlt)
  have go : ∀ (t' : Task σ κ) (s' : State σ κ), t'.stage.rank < t.stage.rank →
      t'.run g f n s' = t'.finish g f s' :=
    fun _ _ h => run_congr g f (Nat.le_of_lt_succ (Nat.lt_of_lt_of_eq h hn)) (Nat.le_refl _)
  rw [finish, hn]
  simp only [run, hr, hw, Option.isSome_none, Bool.true_and, Bool.false_eq_true, if_false, isDue]
  cases hd : t.deadline with
  | none =>
    simp only [Option.any_none, Option.filter_none, Bool.false_eq_true, if_false]
    split
    · rfl
    · next hs => exact go _ _ (t.rank_advance g f s hnone (by simpa using hs))
  | some d =>
    have hdropped := go _ (t.abandon (s.atLeast d)).2 (t.rank_abandon s hw (s.atLeast d) rfl)
    simp only [Option.any_some, Option.filter_some, decide_eq_true_eq]
    by_cases hle : d ≤ s.clock
    · have hs : s.atLeast d = s := by simp [State.atLeast, Nat.max_eq_left hle]
      rw [hs] at hdropped
      rw [if_pos hle, if_pos (.inl hle)]
      simp only [hs]
      exact hdropped
    · by_cases hs : t.isStuck s = true
      · rw [if_neg hle, if_pos hs, if_pos (.inr hs)]
        exact hdropped
      · rw [if_neg hle, if_neg hs, if_neg (by simp [hle, hs])]
        simp only [hs]
        exact go _ _ (t.rank_advance g f s hnone (by simpa using hs))

/-! ## Stage by stage -/

section
variable {g f} {t : Task σ κ} {s : State σ κ}

theorem finish_answered {context : ClusterContext} {client : κ} {outcome : Outcome Json}
    (h : t.stage = .answered context client outcome) :
    t.finish g f s = (some (outcome.map .value), s.heed context client outcome) := by
  rw [finish_of_not_waits g f (by simp [result?, h]) (by simp [waits, h])]
  have ha : t.advance g f s = (t.goTo (.finished (outcome.map .value)), s.heed context client outcome) := by
    cases outcome <;> simp [advance, h, answer, State.heed]
  rw [ha]
  exact finish_of_result? g f rfl

theorem finish_calling {what : String} {context : ClusterContext} {client : κ}
    {finish : Option (σ → Outcome Json × σ)} (h : t.stage = .calling what context client finish) :
    t.finish g f s =
      match Awaited.pending finish t.deadline s.clock s.world with
      | .answered outcome world =>
        (some (outcome.map .value), { s.atLeast t.due with world }.heed context client outcome)
      | .late d => (some (.error (.expired what)), s.atLeast d)
      | .never => (none, s) := by
  have hstuck : t.isStuck s = finish.isNone := by simp [isStuck, h]
  rw [finish_of_waits g f (by simp [waits, h]), hstuck]
  unfold Awaited.pending
  cases t.deadline.filter fun d => d ≤ s.clock ∨ finish.isNone = true with
  | some d =>
    have ha : t.abandon (s.atLeast d) =
        (t.goTo (.answered context client (.error (.expired what))), s.atLeast d) := by
      simp [abandon, h]
    simp only [ha]
    rw [finish_answered rfl]
    rfl
  | none =>
    cases finish with
    | none => rfl
    | some finish =>
      simp only [advance, h, Option.isNone_some, Bool.false_eq_true, if_false]
      exact finish_answered rfl

def awaiting (t : Task σ κ) (s : State σ κ) (what : String) (context : ClusterContext) (client : κ) :
    Reply σ (Outcome Json) → Task σ κ
  | .now outcome => t.goTo (.answered context client outcome)
  | .later wait finish =>
    (t.dueAt (s.clock + wait)).goTo (.calling what context client (t.inTime s wait finish))
  | .never => t.goTo (.calling what context client none)

omit [DecidableEq κ] in
theorem operate_eq (t : Task σ κ) (s : State σ κ) (kind : ResourceKind) (request : Request)
    (context : ClusterContext) (client : κ) :
    t.operate g f s kind request context client =
      match Effect.ofRequest kind request with
      | .error failure => (t.goTo (.answered context client (.error failure)), s)
      | .ok e =>
        let (reply, s) := t.perform f s kind context client e
        (t.awaiting s s!"{request.verb} {kind.name}" context client
          (reply.map fun outcome => outcome.map (e.conclude g.hidden kind)), s) := by
  unfold operate
  cases Effect.ofRequest kind request with
  | error failure => rfl
  | ok e =>
    simp only
    generalize t.perform f s kind context client e = begun
    obtain ⟨reply, s⟩ := begun
    cases reply <;> rfl

theorem finish_awaiting (t : Task σ κ) (s : State σ κ) (what : String) (context : ClusterContext) (client : κ)
    (reply : Reply σ (Outcome Json)) :
    (t.awaiting s what context client reply).finish g f s =
      match reply.awaitUntil t.deadline s.clock s.world with
      | .answered outcome world =>
        (some (outcome.map .value), { s.later reply.wait with world }.heed context client outcome)
      | .late d => (some (.error (.expired what)), s.atLeast d)
      | .never => (none, s) := by
  cases reply with
  | now outcome => exact finish_answered rfl
  | later wait finish =>
    rw [awaiting, finish_calling rfl, awaitUntil_later]
    simp only [deadline_goTo, deadline_dueAt, due_goTo, due_dueAt, State.atLeast_add]
    rfl
  | never =>
    rw [awaiting, finish_calling rfl, ← awaitUntil_never]
    cases hd : t.deadline <;> simp only [deadline_goTo, hd, Reply.awaitUntil]

theorem finish_operate {kind : ResourceKind} {request : Request} {context : ClusterContext} {client : κ}
    (h : t.stage = .resolved (.operate kind request) context client) :
    t.finish g f s =
      match Effect.ofRequest kind request with
      | .error failure => (some (.error failure), s)
      | .ok e =>
        let r := s.perform g f t.ticket t.deadline kind request.verb context client e
        (r.1.map fun outcome => outcome.map .value, r.2) := by
  rw [finish_of_not_waits g f (by simp [result?, h]) (by simp [waits, h])]
  have ha : t.advance g f s = t.operate g f s kind request context client := by simp [advance, h]
  rw [ha, operate_eq]
  cases hr : Effect.ofRequest kind request with
  | error failure =>
    simp only
    rw [finish_answered rfl]
    simp [State.heed, Effect.not_isConnection_of_ofRequest hr, Except.map]
  | ok e =>
    simp only [perform_eq, State.perform]
    rw [finish_awaiting]
    simp only [State.clock_record, State.world_record, Reply.wait_map]
    split <;> rfl

theorem finish_connecting {errand : Errand} {context : ClusterContext} {slot : SlotId}
    {finish : Option (σ → Outcome κ × σ)} (h : t.stage = .connecting errand context slot finish) :
    t.finish g f s =
      match Awaited.pending finish t.deadline s.clock s.world with
      | .answered outcome world =>
        (t.goTo (.built errand context outcome)).finish g f ({ s.atLeast t.due with world }.settle slot outcome)
      | .late d =>
        (some (.error (.expired "context resolve")), ((s.atLeast d).put slot .empty).record (.dropped slot))
      | .never => (none, s) := by
  have hstuck : t.isStuck s = finish.isNone := by simp [isStuck, h]
  rw [finish_of_waits g f (by simp [waits, h]), hstuck]
  unfold Awaited.pending
  cases t.deadline.filter fun d => d ≤ s.clock ∨ finish.isNone = true with
  | some d =>
    have ha : t.abandon (s.atLeast d) = (t.goTo (.finished (.error (.expired "context resolve"))),
        ((s.atLeast d).put slot .empty).record (.dropped slot)) := by
      simp [abandon, h]
    simp only [ha]
    exact finish_of_result? g f rfl
  | none =>
    cases finish with
    | none => rfl
    | some finish => simp only [advance, h, Option.isNone_some, Bool.false_eq_true, if_false, connected_eq]

theorem finish_handOver (t : Task σ κ) (s : State σ κ) (context : ClusterContext) (client : κ) :
    (t.goTo (.resolved .handOver context client)).finish g f s = (some (.ok (.resolved context client)), s) := by
  rw [finish_of_not_waits g f rfl rfl]
  exact finish_of_result? g f rfl

theorem finish_built (t : Task σ κ) (s : State σ κ) (errand : Errand) (context : ClusterContext)
    (outcome : Outcome κ) (due : Instant) :
    ((t.dueAt due).goTo (.built errand context outcome)).finish g f s =
      match outcome with
      | .ok client => (t.goTo (.resolved errand context client)).finish g f s
      | .error failure => (some (.error failure), s) := by
  cases outcome with
  | ok client =>
    simp only [Stage.built]
    cases errand with
    | handOver => rw [finish_handOver, finish_handOver]
    | operate kind q =>
      rw [finish_operate rfl, finish_operate (t := t.goTo _) rfl]
      rfl
  | error failure => exact finish_of_result? g f rfl

def building (t : Task σ κ) (s : State σ κ) (errand : Errand) (context : ClusterContext) (slot : SlotId) :
    Reply σ (Outcome κ) → Task σ κ × State σ κ
  | .now outcome => (t.goTo (.built errand context outcome), s.settle slot outcome)
  | .later wait finish =>
    ((t.dueAt (s.clock + wait)).goTo (.connecting errand context slot (t.inTime s wait finish)),
      s.put slot .building)
  | .never => (t.goTo (.connecting errand context slot none), s.put slot .building)

omit [DecidableEq κ] in
theorem connect_eq (t : Task σ κ) (s : State σ κ) (errand : Errand) (context : ClusterContext) (slot : SlotId) :
    t.connect f s errand context slot =
      let (reply, world) := f.connect context s.world
      t.building ({ s with world }.record (.connecting slot)) errand context slot reply := by
  unfold connect
  generalize f.connect context s.world = begun
  obtain ⟨reply, world⟩ := begun
  cases reply with
  | now outcome => exact connected_eq t _ errand context slot outcome
  | _ => rfl

theorem finish_building (t : Task σ κ) (s : State σ κ) (errand : Errand) (context : ClusterContext)
    (slot : SlotId) (reply : Reply σ (Outcome κ)) :
    (t.building s errand context slot reply).1.finish g f (t.building s errand context slot reply).2 =
      match reply.awaitUntil t.deadline s.clock s.world with
      | .answered outcome world =>
        match outcome with
        | .ok client =>
          (t.goTo (.resolved errand context client)).finish g f
            ({ s.later reply.wait with world }.settle slot outcome)
        | .error failure => (some (.error failure), { s.later reply.wait with world }.settle slot outcome)
      | .late d =>
        (some (.error (.expired "context resolve")), ((s.atLeast d).put slot .empty).record (.dropped slot))
      | .never => (none, s.put slot .building) := by
  -- the end of a construction undoes its beginning
  have hsettle : ∀ due outcome world, ({ (s.put slot .building).atLeast due with world } : State σ κ).settle slot
      outcome = ({ s.atLeast due with world } : State σ κ).settle slot outcome :=
    fun due outcome world => State.settle_put { s.atLeast due with world } slot .building outcome
  have hdrop : ∀ d, ((s.put slot .building).atLeast d).put slot .empty = (s.atLeast d).put slot .empty := by
    intro d
    simp [State.put, State.atLeast, Registry.put_put]
  cases reply with
  | now outcome => exact finish_built t _ errand context outcome t.due
  | later wait finish =>
    rw [building, finish_connecting rfl, awaitUntil_later]
    simp only [deadline_goTo, deadline_dueAt, due_goTo, due_dueAt, goTo_goTo, State.world_put, State.clock_put,
      hsettle, hdrop, State.atLeast_add, Reply.wait]
    cases Awaited.pending (t.inTime s wait finish) t.deadline s.clock s.world with
    | answered outcome world =>
      simp only
      exact finish_built t _ errand context outcome _
    | late d => rfl
    | never => rfl
  | never =>
    rw [building, finish_connecting rfl, ← awaitUntil_never]
    cases hd : t.deadline <;> simp only [deadline_goTo, hd, Reply.awaitUntil, hdrop]

theorem finish_resolving {errand : Errand} {context : ClusterContext} {slot : SlotId}
    (h : t.stage = .resolving errand context slot) :
    t.finish g f s =
      match s.fetch f t.deadline context slot with
      | (some (.ok client), s) => (t.goTo (.resolved errand context client)).finish g f s
      | (some (.error failure), s) => (some (.error failure), s)
      | (none, s) => (none, s) := by
  have hr : t.result? = none := by simp [result?, h]
  cases hslot : s.registry.slots slot with
  | ready client =>
    rw [finish_of_not_waits g f hr (by simp [waits, h, hslot])]
    simp only [advance, h, hslot, State.fetch]
  | building =>
    have hs : t.isStuck s = true := by simp [isStuck, waits, h, hslot]
    rw [finish_of_waits g f (t.waits_of_isStuck s hs)]
    simp only [hs, or_true, decide_true, if_true, State.fetch, hslot]
    cases t.deadline with
    | none => rfl
    | some d =>
      have ha : t.abandon (s.atLeast d) =
          (t.goTo (.finished (.error (.expired "context resolve"))), s.atLeast d) := by
        simp [abandon, h]
      simp only [Option.filter_some, if_true, ha]
      exact finish_of_result? g f rfl
  | empty =>
    rw [finish_of_not_waits g f hr (by simp [waits, h, hslot])]
    have ha : t.advance g f s = t.connect f s errand context slot := by simp only [advance, h, hslot]
    rw [ha, connect_eq]
    unfold State.fetch
    simp only [hslot]
    rw [finish_building]
    simp only [State.clock_record, State.world_record]
    cases (f.connect context s.world).1.awaitUntil t.deadline s.clock (f.connect context s.world).2 with
    | answered outcome world => cases outcome <;> rfl
    | late d => rfl
    | never => rfl

theorem finish_lookUp (t : Task σ κ) (s : State σ κ) (errand : Errand) (id : Option String) :
    (t.lookUp s errand id).finish g f s =
      match s.registry.contexts.select id with
      | .error failure => (some (.error failure), s)
      | .ok context =>
        match s.fetch f t.deadline context (s.registry.current context.id) with
        | (some (.ok client), s) => (t.goTo (.resolved errand context client)).finish g f s
        | (some (.error failure), s) => (some (.error failure), s)
        | (none, s) => (none, s) := by
  unfold lookUp
  cases s.registry.contexts.select id with
  | error failure => exact finish_of_result? g f rfl
  | ok context => exact finish_resolving rfl

theorem finish_arrived (h : t.stage = .arrived) : t.finish g f s = (t.arrive g s).finish g f s := by
  rw [finish_of_not_waits g f (by simp [result?, h]) (by simp [waits, h])]
  simp only [advance, h]

end

end Task

end ClusterGateway
