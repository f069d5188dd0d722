import ClusterGateway.Proofs.Access.Gate
import ClusterGateway.Proofs.Gateway.Alone

/-!
# The stages of a request

A request passes the gate, has its context selected, its client fetched, its effect planned and
performed, in this order. It ends at the first stage that fails, and what belongs to a later
stage has not happened then.
-/

namespace ClusterGateway

variable {σ κ : Type}

def Event.isConnecting : Event κ → Bool
  | .connecting _ => true
  | _ => false

def Event.isOperation : Event κ → Bool
  | .called _ _ _ => true
  | .described _ _ _ _ _ => true
  | _ => false

theorem Effect.ofRequest_of_required? {r : ResourceKind} {q : Request} {level : Level}
    (h : r.policy.required? q.verb = some level) :
    ofRequest r q = (plan r q).mapError Refusal.failure := by
  rw [ofRequest, if_pos]
  rw [ResourceKind.supports, h]
  rfl

/-! ## What the stages start -/

namespace State

/-- On the way from one state to another so many constructions start at most, and just these
operations. -/
def Starts (s s' : State σ κ) (n : Nat) (operations : List (Event κ)) : Prop :=
  ∃ es, s'.journal = es ++ s.journal ∧ es.countP Event.isConnecting ≤ n ∧
    es.filter Event.isOperation = operations

namespace Starts

variable {s s' s'' : State σ κ} {n m : Nat} {operations operations' : List (Event κ)}

theorem refl (s : State σ κ) (n : Nat) : Starts s s n [] := ⟨[], rfl, Nat.zero_le n, rfl⟩

theorem trans (h : Starts s s' n operations) (h' : Starts s' s'' m operations') :
    Starts s s'' (n + m) (operations' ++ operations) := by
  obtain ⟨es, hj, hn, ho⟩ := h
  obtain ⟨es', hj', hn', ho'⟩ := h'
  refine ⟨es' ++ es, by rw [hj', hj, List.append_assoc], ?_, by rw [List.filter_append, ho, ho']⟩
  rw [List.countP_append, Nat.add_comm]
  exact Nat.add_le_add hn hn'

end Starts

theorem starts_fetch (f : Fleet σ κ) (deadline : Option Instant) (context : ClusterContext) (slot : SlotId)
    (s : State σ κ) : s.Starts (s.fetch f deadline context slot).2 1 [] := by
  generalize hr : s.fetch f deadline context slot = r
  cases fetched_of_eq hr with
  | found => exact .refl s 1
  | expired => exact .refl s 1
  | stuck => exact .refl s 1
  | @settled outcome =>
    cases outcome with
    | ok client => exact ⟨[.connected slot client, .connecting slot], rfl, Nat.le_refl _, rfl⟩
    | error failure => exact ⟨[.refused slot failure, .connecting slot], rfl, Nat.le_refl _, rfl⟩
  | dropped => exact ⟨[.dropped slot, .connecting slot], rfl, Nat.le_refl _, rfl⟩
  | hung => exact ⟨[.connecting slot], rfl, Nat.le_refl _, rfl⟩

/-- How long the client in a slot takes: as long as its construction, where there is none yet. -/
def buildTime (f : Fleet σ κ) (context : ClusterContext) (slot : SlotId) (s : State σ κ) : Nat :=
  match s.registry.slots slot with
  | .empty => (f.connect context s.world).1.wait
  | .building | .ready _ => 0

theorem clock_of_fetch {f : Fleet σ κ} {deadline : Option Instant} {context : ClusterContext} {slot : SlotId}
    {s s' : State σ κ} {client : κ} (h : s.fetch f deadline context slot = (some (.ok client), s')) :
    s'.clock = s.clock + s.buildTime f context slot := by
  unfold buildTime
  cases fetched_of_eq h with
  | found hslot => rw [hslot]; rfl
  | settled hslot => rw [hslot]; rfl

theorem clock_fetch_le (f : Fleet σ κ) (d : Instant) (context : ClusterContext) (slot : SlotId) (s : State σ κ) :
    (s.fetch f (some d) context slot).2.clock ≤ max s.clock d := by
  generalize hr : s.fetch f (some d) context slot = r
  cases fetched_of_eq hr with
  | found => exact Nat.le_max_left ..
  | expired _ hd =>
    cases hd
    exact Nat.le_refl _
  | stuck _ hd => cases hd
  | @settled outcome world _ hreply =>
    have hwait := Reply.wait_le_of_awaitUntil hreply
    cases outcome <;> exact hwait
  | dropped _ hreply =>
    cases Reply.late_of_awaitUntil hreply
    exact Nat.le_refl _
  | hung => exact Nat.le_max_left ..

theorem connecting_of_fetch (f : Fleet σ κ) (deadline : Option Instant) (context : ClusterContext) {slot : SlotId}
    {s : State σ κ} (he : s.registry.slots slot = .empty) :
    ∃ es, (s.fetch f deadline context slot).2.journal = es ++ .connecting slot :: s.journal := by
  simp only [fetch, he]
  split
  · next outcome world _ =>
    cases outcome with
    | ok client => exact ⟨[.connected _ client], rfl⟩
    | error failure => exact ⟨[.refused _ failure], rfl⟩
  · exact ⟨[.dropped _], rfl⟩
  · exact ⟨[], rfl⟩

variable [DecidableEq κ]

theorem starts_heed (s : State σ κ) (context : ClusterContext) (client : κ) (outcome : Outcome Json) :
    s.Starts (s.heed context client outcome) 0 [] := by
  unfold heed
  cases outcome with
  | ok v => exact .refl s 0
  | error failure =>
    simp only [invalidateClient_eq]
    split
    · split
      · exact ⟨[.evicted (s.registry.current context.id)], rfl, Nat.le_refl _, rfl⟩
      · exact .refl s 0
    · exact .refl s 0

theorem clock_heed (s : State σ κ) (context : ClusterContext) (client : κ) (outcome : Outcome Json) :
    (s.heed context client outcome).clock = s.clock := by
  unfold heed
  cases outcome with
  | ok v => rfl
  | error failure =>
    simp only [invalidateClient_eq]
    split
    · split <;> rfl
    · rfl

theorem starts_perform (g : Settings) (f : Fleet σ κ) (ticket : Nat) (deadline : Option Instant)
    (kind : ResourceKind) (verb : Verb) (context : ClusterContext) (client : κ) (e : Effect) (s : State σ κ) :
    s.Starts (s.perform g f ticket deadline kind verb context client e).2 0
      [e.event ticket kind context client] := by
  have hbegun : ∀ s' : State σ κ, s'.journal = e.event ticket kind context client :: s.journal →
      s.Starts s' 0 [e.event ticket kind context client] := by
    intro s' hj
    refine ⟨[e.event ticket kind context client], hj, ?_, ?_⟩
    · cases e <;> simp [Effect.event, Event.isConnecting]
    · cases e <;> simp [Effect.event, Event.isOperation]
  unfold perform
  simp only
  split
  · exact (hbegun _ rfl).trans (starts_heed _ context client _)
  · exact hbegun _ rfl
  · exact hbegun _ rfl

theorem clock_perform_le (g : Settings) (f : Fleet σ κ) (ticket : Nat) (d : Instant) (kind : ResourceKind)
    (verb : Verb) (context : ClusterContext) (client : κ) (e : Effect) (s : State σ κ) :
    (s.perform g f ticket (some d) kind verb context client e).2.clock ≤ max s.clock d := by
  unfold perform
  simp only
  split
  · next hreply =>
    have hwait := Reply.wait_le_of_awaitUntil hreply
    rw [Reply.wait_map] at hwait
    rw [clock_heed]
    exact hwait
  · next hreply =>
    cases Reply.late_of_awaitUntil hreply
    exact Nat.le_refl _
  · exact Nat.le_max_left ..

theorem perform_fst (g : Settings) (f : Fleet σ κ) (ticket : Nat) (deadline : Option Instant)
    (kind : ResourceKind) (verb : Verb) (context : ClusterContext) (client : κ) (e : Effect) (s : State σ κ) :
    (s.perform g f ticket deadline kind verb context client e).1 =
      match ((e.start f kind context client s.world).1.map fun outcome =>
        outcome.map (e.conclude g.hidden kind)).awaitUntil deadline s.clock
          (e.start f kind context client s.world).2 with
      | .answered outcome _ => some outcome
      | .late _ => some (.error (.expired s!"{verb} {kind.name}"))
      | .never => none := by
  simp only [perform, clock_record]
  split <;> next h => simp only [h]

theorem envelope_perform (g : Settings) (f : Fleet σ κ) (ticket : Nat) (deadline : Option Instant)
    (kind : ResourceKind) (verb : Verb) (context : ClusterContext) (client : κ) (e : Effect) (s : State σ κ) :
    (s.perform g f ticket deadline kind verb context client e).1.map Envelope.ofOutcome =
      match ((e.start f kind context client s.world).1.map fun outcome =>
        outcome.map (e.conclude g.hidden kind)).awaitUntil deadline s.clock
          (e.start f kind context client s.world).2 with
      | .answered outcome _ => some (.ofOutcome outcome)
      | .late _ => some (.error (.ofFailure (.expired s!"{verb} {kind.name}")))
      | .never => none := by
  rw [perform_fst]
  split <;> rfl

end State

/-! ## A client within a deadline -/

namespace Gateway

variable [DecidableEq κ] (g : Settings) (f : Fleet σ κ)

/-- The client of a context, if there is one before the deadline. -/
def resolveWithin (deadline : Option Instant) (id : Option String) (s : State σ κ) :
    Option (Outcome (Answer κ)) × State σ κ :=
  ({ Task.start 0 (.resolve id) with deadline } : Task σ κ).finish g f s

theorem resolve_eq_resolveWithin (id : Option String) (s : State σ κ) :
    resolve g f id s = resolveWithin g f none id s := rfl

theorem resolveWithin_eq (deadline : Option Instant) (id : Option String) (s : State σ κ) :
    resolveWithin g f deadline id s =
      match s.registry.contexts.select id with
      | .error failure => (some (.error failure), s)
      | .ok context =>
        let (outcome, s) := s.fetch f deadline context (s.registry.current context.id)
        (outcome.map fun outcome => outcome.map (.resolved context), s) := by
  rw [resolveWithin, Task.finish_arrived rfl]
  simp only [Task.arrive, Task.start]
  rw [Task.finish_lookUp]
  cases s.registry.contexts.select id with
  | error failure => rfl
  | ok context =>
    simp only
    split
    · next client s' hs =>
      rw [Task.finish_handOver, hs]
      rfl
    · next failure s' hs =>
      rw [hs]
      rfl
    · next s' hs =>
      rw [hs]
      rfl

/-! ## Stage by stage -/

def deadlineOf (q : Request) (s : State σ κ) : Option Instant := q.deadline.or (g.timeout.map (s.clock + ·))

section
variable {g f} {p : Principal} {q : Request} {s s₁ : State σ κ} {failure : Failure} {kind : ResourceKind}
  {context : ClusterContext} {client : κ}

theorem execute_of_denied (h : g.catalog.authorize p q.kind q.verb = .error failure) :
    execute g f p q s = (some (.error (.ofFailure failure)), s) := by
  unfold execute
  rw [Task.finish_arrived rfl]
  simp only [Task.arrive, Task.start, h]
  rw [Task.finish_of_result? g f rfl]
  rfl

variable (ha : g.catalog.authorize p q.kind q.verb = .ok kind)
include ha

theorem execute_of_allowed :
    execute g f p q s =
      let r := (Task.lookUp ⟨0, .execute p q, deadlineOf g q s, 0, .arrived⟩ s (.operate kind q) q.context).finish g f s
      (r.1.map fun r => .ofOutcome (r.map Answer.toJson), r.2) := by
  unfold execute
  rw [Task.finish_arrived rfl]
  simp only [Task.arrive, Task.start, ha]
  rfl

theorem execute_of_unknown (hs : s.registry.contexts.select q.context = .error failure) :
    execute g f p q s = (some (.error (.ofFailure failure)), s) := by
  rw [execute_of_allowed ha, Task.finish_lookUp, hs]
  rfl

variable (hs : s.registry.contexts.select q.context = .ok context)
include hs

theorem execute_of_hung
    (hf : s.fetch f (deadlineOf g q s) context (s.registry.current context.id) = (none, s₁)) :
    execute g f p q s = (none, s₁) := by
  rw [execute_of_allowed ha, Task.finish_lookUp, hs]
  simp only [hf]
  rfl

theorem execute_of_unresolved
    (hf : s.fetch f (deadlineOf g q s) context (s.registry.current context.id) = (some (.error failure), s₁)) :
    execute g f p q s = (some (.error (.ofFailure failure)), s₁) := by
  rw [execute_of_allowed ha, Task.finish_lookUp, hs]
  simp only [hf]
  rfl

theorem execute_of_resolved
    (hf : s.fetch f (deadlineOf g q s) context (s.registry.current context.id) = (some (.ok client), s₁)) :
    execute g f p q s =
      match Effect.ofRequest kind q with
      | .error failure => (some (.error (.ofFailure failure)), s₁)
      | .ok e =>
        let r := s₁.perform g f 0 (deadlineOf g q s) kind q.verb context client e
        (r.1.map .ofOutcome, r.2) := by
  rw [execute_of_allowed ha, Task.finish_lookUp, hs]
  simp only [hf]
  rw [Task.finish_operate rfl]
  cases Effect.ofRequest kind q with
  | error failure => rfl
  | ok e =>
    simp only [Task.goTo, Option.map_map]
    congr 1
    refine Option.map_congr fun outcome _ => ?_
    cases outcome <;> rfl

end

/-- All that a request waits for alone is over by its one deadline. -/
theorem clock_execute_le {p : Principal} {q : Request} {s : State σ κ} {d : Instant}
    (h : deadlineOf g q s = some d) : (execute g f p q s).2.clock ≤ max s.clock d := by
  cases ha : g.catalog.authorize p q.kind q.verb with
  | error failure =>
    rw [execute_of_denied ha]
    exact Nat.le_max_left ..
  | ok kind =>
    cases hs : s.registry.contexts.select q.context with
    | error failure =>
      rw [execute_of_unknown ha hs]
      exact Nat.le_max_left ..
    | ok context =>
      have hfetch := s.clock_fetch_le f d context (s.registry.current context.id)
      rw [← h] at hfetch
      rcases hf : s.fetch f (deadlineOf g q s) context (s.registry.current context.id) with
        ⟨_ | failure | client, s₁⟩ <;> rw [hf] at hfetch
      · rw [execute_of_hung ha hs hf]
        exact hfetch
      · rw [execute_of_unresolved ha hs hf]
        exact hfetch
      · rw [execute_of_resolved ha hs hf]
        cases Effect.ofRequest kind q with
        | error failure => exact hfetch
        | ok e =>
          have hperform := s₁.clock_perform_le g f 0 d kind q.verb context client e
          rw [← h] at hperform
          exact Nat.le_trans hperform (Nat.max_le.mpr ⟨hfetch, Nat.le_max_right ..⟩)

/-! ## Stage order -/

/-- A request alone, from any state, ends at the first stage that fails: the gate, the context, its client, the
checks of the verb. Nothing of a later stage has happened then, and otherwise exactly one operation was started.
It starts one construction at most and is over by its deadline, which is the same moment for both: the operation
has the time that the construction leaves. -/
theorem execute_stages (p : Principal) (q : Request) (s : State σ κ) :
    let r := execute g f p q s
    let refused (failure : Failure) : Prop := r.1 = some (.error (.ofFailure failure))
    (∃ operations, s.Starts r.2 1 operations ∧ operations.length ≤ 1) ∧
    (∀ d, deadlineOf g q s = some d → r.2.clock ≤ max s.clock d) ∧
      match g.catalog.find? q.kind with
      | none => refused (.unsupportedKind q.kind) ∧ r.2 = s
      | some kind =>
        match kind.policy.required? q.verb with
        | none => refused (.verbUnsupported kind.name q.verb) ∧ r.2 = s
        | some level =>
          if p.hasLevel level = false then refused (.insufficientAccess kind.name q.verb level p.level) ∧ r.2 = s
          else
            let id := s.registry.contexts.named? q.context
            match s.registry.contexts.find? id with
            | none => refused (.unknownContext id) ∧ r.2 = s
            | some context =>
              match resolveWithin g f (deadlineOf g q s) q.context s with
              | (none, s₁) => r.1 = none ∧ r.2 = s₁ ∧ s.Starts s₁ 1 []
              | (some (.error failure), s₁) => refused failure ∧ r.2 = s₁ ∧ s.Starts s₁ 1 []
              | (some (.ok answer), s₁) =>
                ∃ client, answer = .resolved context client ∧
                  s₁.clock = s.clock + s.buildTime f context (s.registry.current context.id) ∧
                  match Effect.plan kind q with
                  | .error refusal => refused (.validation refusal.message) ∧ r.2 = s₁ ∧ s.Starts s₁ 1 []
                  | .ok e =>
                    let (reply, world) := e.start f kind context client s₁.world
                    e.Fits kind q.verb ∧ s.Starts r.2 1 [e.event 0 kind context client] ∧
                      match (reply.map fun outcome => outcome.map (e.conclude g.hidden kind)).awaitUntil
                        (deadlineOf g q s) s₁.clock world with
                      | .answered outcome _ => r.1 = some (.ofOutcome outcome)
                      | .late _ => refused (.expired s!"{q.verb} {kind.name}")
                      | .never => r.1 = none := by
  intro r refused
  have hr : execute g f p q s = r := rfl
  refine and_left_comm.mp ⟨fun d hd => clock_execute_le g f hd, ?_⟩
  clear_value r
  have hgate := Catalog.authorize_eq g.catalog p q.kind q.verb
  -- a request that is refused before it fetches a client
  have hrefused : ∀ {failure}, execute g f p q s = (some (.error (.ofFailure failure)), s) →
      (∃ operations, s.Starts r.2 1 operations ∧ operations.length ≤ 1) ∧ refused failure ∧ r.2 = s := by
    intro failure he
    rw [he] at hr
    subst hr
    exact ⟨⟨[], .refl s 1, Nat.zero_le _⟩, rfl, rfl⟩
  cases hkind : g.catalog.find? q.kind with
  | none =>
    rw [hkind] at hgate
    exact hrefused (execute_of_denied hgate)
  | some kind =>
    simp only [hkind] at hgate
    cases hlevel : kind.policy.required? q.verb with
    | none =>
      rw [hlevel] at hgate
      simp only [hlevel]
      exact hrefused (execute_of_denied hgate)
    | some level =>
      simp only [hlevel] at hgate ⊢
      split
      · next hhas =>
        simp only [hhas] at hgate
        exact hrefused (execute_of_denied hgate)
      · next hhas =>
        rw [if_pos (by simpa using hhas)] at hgate
        cases hfind : s.registry.contexts.find? (s.registry.contexts.named? q.context) with
        | none => exact hrefused (execute_of_unknown hgate (by rw [Contexts.select, hfind]))
        | some context =>
          have hselect : s.registry.contexts.select q.context = .ok context := by rw [Contexts.select, hfind]
          have hresolve := resolveWithin_eq g f (deadlineOf g q s) q.context s
          have hfetch := s.starts_fetch f (deadlineOf g q s) context (s.registry.current context.id)
          rw [hselect] at hresolve
          rcases hf : s.fetch f (deadlineOf g q s) context (s.registry.current context.id) with
            ⟨_ | failure | client, s₁⟩ <;> simp only [hf] at hresolve hfetch <;> simp only [hresolve]
          · rw [execute_of_hung hgate hselect hf] at hr
            subst hr
            exact ⟨⟨[], hfetch, Nat.zero_le _⟩, rfl, rfl, hfetch⟩
          · rw [execute_of_unresolved hgate hselect hf] at hr
            subst hr
            exact ⟨⟨[], hfetch, Nat.zero_le _⟩, rfl, rfl, hfetch⟩
          · have hclock := State.clock_of_fetch hf
            rw [execute_of_resolved hgate hselect hf, Effect.ofRequest_of_required? hlevel] at hr
            cases hplan : Effect.plan kind q with
            | error refusal =>
              rw [hplan] at hr
              subst hr
              exact ⟨⟨[], hfetch, Nat.zero_le _⟩, client, rfl, hclock, rfl, rfl, hfetch⟩
            | ok e =>
              rw [hplan] at hr
              have hperform := hfetch.trans
                (s₁.starts_perform g f 0 (deadlineOf g q s) kind q.verb context client e)
              subst hr
              refine ⟨⟨_, hperform, Nat.le_refl _⟩, client, rfl, hclock, Effect.plan_fits kind q e hplan, hperform, ?_⟩
              simp only [refused, Except.mapError, State.envelope_perform]
              split <;> next h => simp only [h]

/-- A construction and a call that take 8 each, and 10 for both: the call is too late. -/
example :
    let node : ResourceKind := ⟨"node", [], ⟨"", "v1", "Node", "nodes"⟩, .cluster, .uniform .reader, "", ""⟩
    let g : Settings := ⟨⟨[node], by cbv⟩, ⟨[]⟩, some 10⟩
    let f : Fleet Unit Nat :=
      { connect := fun _ w => (.later 8 fun w => (.ok 2, w), w)
        call := fun _ _ w => (.later 8 fun w => (.ok .null, w), w)
        describe := fun _ _ _ _ w => (.never, w) }
    let s : State Unit Nat := ⟨.start ⟨⟨"default", .inCluster⟩, [⟨"staging", .inCluster⟩], by decide⟩ 1, (), 0, []⟩
    let r := execute g f ⟨"ann", .reader⟩ { verb := .list, kind := "node", context := some "staging" } s
    r.1 = some (.error (.ofFailure (.expired "list node"))) ∧ r.2.clock = 10 ∧
      r.2.journal = [.called 0 2 ⟨node.api, none, .list⟩, .connected ⟨"staging", 0⟩ 2, .connecting ⟨"staging", 0⟩] := by
  decide +kernel

end Gateway

end ClusterGateway
