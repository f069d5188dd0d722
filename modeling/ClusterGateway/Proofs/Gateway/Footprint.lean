import ClusterGateway.Proofs.Gateway.Invalidation

/-!
# What a request leaves in the registry

A request touches the slot of its own context and nothing else. Where it comes to no client it leaves
the registry as it was; where it does it leaves the client behind, unless the connection failed.
-/

namespace ClusterGateway

variable {σ κ : Type}

namespace Registry

/-- The registries have the context on the same slot, and the same in its slots. -/
structure SameAt (r r' : Registry κ) (id : String) : Prop where
  generation : r'.generation id = r.generation id
  slots : ∀ slot : SlotId, slot.context = id → r'.slots slot = r.slots slot

namespace SameAt

variable {r r' r'' : Registry κ} {id : String}

theorem refl (r : Registry κ) (id : String) : r.SameAt r id := ⟨rfl, fun _ _ => rfl⟩

theorem trans (h : r.SameAt r' id) (h' : r'.SameAt r'' id) : r.SameAt r'' id :=
  ⟨h'.generation.trans h.generation, fun slot hslot => (h'.slots slot hslot).trans (h.slots slot hslot)⟩

theorem put {slot : SlotId} (h : slot.context ≠ id) (r : Registry κ) (content : Slot κ) :
    r.SameAt (r.put slot content) id := by
  refine ⟨rfl, fun other hother => slots_put_of_ne r content ?_⟩
  rintro rfl
  exact h hother

theorem evict {other : String} (h : id ≠ other) (r : Registry κ) : r.SameAt (r.evict other) id :=
  ⟨by rw [generation_evict, if_neg h, Nat.add_zero], fun _ _ => rfl⟩

end SameAt

theorem put_self {r : Registry κ} {slot : SlotId} {content : Slot κ} (h : r.slots slot = content) :
    r.put slot content = r := by
  cases r
  simp only [put, mk.injEq, true_and]
  funext other
  split
  next heq => rw [heq, ← h]
  next => rfl

end Registry

theorem Contexts.isSome_find?_of_select {c : Contexts} {id : Option String} {x : ClusterContext}
    (h : c.select id = .ok x) : (c.find? x.id).isSome := by
  obtain ⟨y, hy, -⟩ := find?_of_mem_ids (List.mem_map_of_mem (mem_of_select h).1)
  rw [hy]
  rfl

def Envelope.lost : Envelope → Bool
  | .error fault => fault.category = .connection
  | .result _ => false

theorem Envelope.lost_ofOutcome (outcome : Outcome Json) :
    (ofOutcome outcome).lost = match outcome with
      | .error failure => failure.isConnection
      | .ok _ => false := by
  cases outcome with
  | ok v => rfl
  | error failure => cases failure <;> rfl

namespace State

variable {f : Fleet σ κ} {deadline : Option Instant} {context : ClusterContext} {slot : SlotId} {client : κ}
  {s s' : State σ κ}

theorem registry_of_fetch (h : s.fetch f deadline context slot = (some (.ok client), s')) :
    s'.registry = s.registry.put slot (.ready client) := by
  rcases cases_of_fetch h with ⟨hslot, rfl⟩ | ⟨-, hregistry⟩
  · exact (Registry.put_self hslot).symm
  · exact hregistry

theorem registry_of_unfetched {failure : Failure}
    (h : s.fetch f deadline context slot = (some (.error failure), s')) : s'.registry = s.registry := by
  cases fetched_of_eq h with
  | expired => rfl
  | settled hslot => exact Registry.put_self hslot
  | dropped hslot => exact Registry.put_self hslot

theorem registry_of_hung (h : s.fetch f deadline context slot = (none, s')) :
    s'.registry = s.registry.put slot .building := by
  cases fetched_of_eq h with
  | stuck hslot => exact (Registry.put_self hslot).symm
  | hung => rfl

variable [DecidableEq κ]

theorem registry_heed (hfind : (s.registry.contexts.find? context.id).isSome)
    (hslot : s.registry.slots (s.registry.current context.id) = .ready client) (outcome : Outcome Json) :
    (s.heed context client outcome).registry =
      if (Envelope.ofOutcome outcome).lost then s.registry.evict context.id else s.registry := by
  rw [Envelope.lost_ofOutcome]
  cases outcome with
  | ok v => rfl
  | error failure =>
    simp only [heed]
    split
    · rw [invalidateClient_eq, if_pos ⟨hfind, hslot⟩]
      rfl
    · rfl

theorem registry_perform (g : Settings) (f : Fleet σ κ) (ticket : Nat) (deadline : Option Instant)
    (kind : ResourceKind) (verb : Verb) (e : Effect) (hfind : (s.registry.contexts.find? context.id).isSome)
    (hslot : s.registry.slots (s.registry.current context.id) = .ready client) :
    let r := s.perform g f ticket deadline kind verb context client e
    r.2.registry =
      if (r.1.map Envelope.ofOutcome).any Envelope.lost then s.registry.evict context.id else s.registry := by
  intro r
  simp only [r, perform]
  split
  · next outcome world _ =>
    refine Eq.trans (registry_heed ?_ ?_ outcome) rfl
    · exact hfind
    · exact hslot
  · rfl
  · rfl

end State

namespace Gateway

variable [DecidableEq κ] (g : Settings) (f : Fleet σ κ)

section
variable {g f} {p : Principal} {q : Request} {s s₁ : State σ κ} {kind : ResourceKind} {context : ClusterContext}
  {client : κ} (ha : g.catalog.authorize p q.kind q.verb = .ok kind)
  (hs : s.registry.contexts.select q.context = .ok context)
  (hf : s.fetch f (deadlineOf g q s) context (s.registry.current context.id) = (some (.ok client), s₁))
include ha hs hf

theorem registry_of_resolved :
    let filled := s.registry.put (s.registry.current context.id) (.ready client)
    (execute g f p q s).2.registry =
      if (execute g f p q s).1.any Envelope.lost then filled.evict context.id else filled := by
  intro filled
  have hregistry : s₁.registry = filled := State.registry_of_fetch hf
  rw [execute_of_resolved ha hs hf]
  cases hplan : Effect.ofRequest kind q with
  | error failure =>
    have hkept : (Envelope.ofOutcome (.error failure)).lost = false := by
      rw [Envelope.lost_ofOutcome]
      exact Effect.not_isConnection_of_ofRequest hplan
    simp only [Option.any_some]
    rw [if_neg (by simpa [Envelope.ofOutcome] using hkept)]
    exact hregistry
  | ok e =>
    have hfind : (s₁.registry.contexts.find? context.id).isSome := by
      rw [hregistry]
      exact Contexts.isSome_find?_of_select hs
    have hslot : s₁.registry.slots (s₁.registry.current context.id) = .ready client := by
      rw [hregistry]
      exact Registry.slots_put_self _ _ _
    rw [← hregistry]
    exact State.registry_perform g f 0 (deadlineOf g q s) kind q.verb e hfind hslot

theorem starts_of_resolved_client :
    ∃ operations, s.Starts (execute g f p q s).2 1 operations ∧
      ∀ e ∈ operations, e.IsWork 0 context client := by
  have hstarts := s.starts_fetch f (deadlineOf g q s) context (s.registry.current context.id)
  rw [hf] at hstarts
  rw [execute_of_resolved ha hs hf]
  cases Effect.ofRequest kind q with
  | error failure => exact ⟨[], hstarts, by simp⟩
  | ok e =>
    have hperform := s₁.starts_perform g f 0 (deadlineOf g q s) kind q.verb context client e
    refine ⟨_, hstarts.trans hperform, ?_⟩
    simp only [List.append_nil, List.mem_singleton, forall_eq]
    exact Effect.event_isWork 0 kind context client e

end

/-- **A request leaves the contexts alone, and of the slots all but the one it needs.** That one stays as it was
where the request comes to no client, and otherwise keeps the client that was used unless its connection
failed. -/
theorem execute_footprint {first : ClusterContext} {named : List ClusterContext} {clock : Instant} {world : σ}
    {s₀ : State σ κ} (h : State.start? f first named clock world = some (.ok s₀)) (jobs : List Job)
    (moves : List (Move κ)) (p : Principal) (q : Request) :
    let s := ((Pool.ofJobs jobs s₀).run g f moves).state
    let r := execute g f p q s
    let refused (failure : Failure) : Prop := r.1 = some (.error (.ofFailure failure)) ∧ r.2.registry = s.registry
    let content (context : ClusterContext) : Slot κ := r.2.registry.slots (r.2.registry.current context.id)
    r.2.registry.contexts = s.registry.contexts ∧
      match g.catalog.authorize p q.kind q.verb, s.registry.contexts.select q.context with
      | .error failure, _ => refused failure
      | .ok _, .error failure => refused failure
      | .ok _, .ok context =>
        (∀ id, id ≠ context.id → s.registry.SameAt r.2.registry id) ∧
          match (resolveWithin g f (deadlineOf g q s) q.context s).1 with
          | some (.error failure) => refused failure
          | some (.ok answer) =>
            ∃ client, answer = .resolved context client ∧
              (∃ operations, s.Starts r.2 1 operations ∧ ∀ e ∈ operations, e.IsWork 0 context client) ∧
              content context = if r.1.any Envelope.lost then .empty else .ready client
          | none => r.1 = none ∧ content context = .building := by
  intro s r refused content
  have hr : execute g f p q s = r := rfl
  have hfresh : s.registry.Fresh := Pool.fresh_of_start? g f h jobs moves
  clear_value r s
  have hrefused : ∀ {failure s₁}, execute g f p q s = (some (.error (.ofFailure failure)), s₁) →
      s₁.registry = s.registry → refused failure := by
    intro failure s₁ he hregistry
    obtain rfl : r = _ := hr.symm.trans he
    exact ⟨rfl, hregistry⟩
  cases ha : g.catalog.authorize p q.kind q.verb with
  | error failure =>
    have hdone := hrefused (execute_of_denied ha) rfl
    exact ⟨by rw [hdone.2], hdone⟩
  | ok kind =>
    cases hs : s.registry.contexts.select q.context with
    | error failure =>
      have hdone := hrefused (execute_of_unknown ha hs) rfl
      exact ⟨by rw [hdone.2], hdone⟩
    | ok context =>
      have hresolve := resolveWithin_eq g f (deadlineOf g q s) q.context s
      rw [hs] at hresolve
      have hother : ∀ id, id ≠ context.id → ∀ content, s.registry.SameAt
          (s.registry.put (s.registry.current context.id) content) id :=
        fun id hid content => .put (Ne.symm hid) _ _
      rcases hf : s.fetch f (deadlineOf g q s) context (s.registry.current context.id) with
        ⟨_ | failure | client, s₁⟩ <;> simp only [hf] at hresolve <;> simp only [hresolve]
      · -- nobody comes to a client that is never there
        have hregistry := State.registry_of_hung hf
        rw [execute_of_hung ha hs hf] at hr
        subst hr
        refine ⟨by rw [hregistry]; rfl, fun id hid => hregistry ▸ hother id hid _, rfl, ?_⟩
        simp only [content, hregistry]
        exact Registry.slots_put_self _ _ _
      · have hdone := hrefused (execute_of_unresolved ha hs hf) (State.registry_of_unfetched hf)
        exact ⟨by rw [hdone.2], fun id _ => hdone.2 ▸ .refl _ _, hdone⟩
      · have hregistry := registry_of_resolved ha hs hf
        have hstarts := starts_of_resolved_client ha hs hf
        simp only [hr] at hregistry hstarts
        have hfilled : (s.registry.put (s.registry.current context.id) (.ready client)).Fresh :=
          hfresh.put (Nat.le_refl _) _
        split at hregistry
        next hlost =>
          refine ⟨by rw [hregistry]; rfl, fun id hid => ?_, client, rfl, hstarts, ?_⟩
          · rw [hregistry]
            exact (hother id hid _).trans (.evict hid _)
          · simp only [content, hregistry, hlost, if_true]
            exact hfilled.empty_evict context.id
        next hkept =>
          refine ⟨by rw [hregistry]; rfl, fun id hid => hregistry ▸ hother id hid _, client, rfl, hstarts, ?_⟩
          simp only [content, hregistry, hkept]
          exact Registry.slots_put_self _ _ _

theorem execute_footprint_of_reset :
    let node : ResourceKind := ⟨"node", [], ⟨"", "v1", "Node", "nodes"⟩, .cluster, .uniform .reader, "", ""⟩
    let g : Settings := ⟨⟨[node], by cbv⟩, ⟨[]⟩, none⟩
    let f := Simulated.fleet .echo
    let first : ClusterContext := ⟨"default", .inCluster⟩
    let staging : ClusterContext := ⟨"staging", .inCluster⟩
    let world : Simulated.World := { Simulated.World.empty with callFailures := [.connection "reset"] }
    let client (id : String) (number : Nat) : Simulated.Client := ⟨id, number⟩
    let s₀ : State Simulated.World Simulated.Client :=
      ⟨.start ⟨first, [staging], by decide⟩ (client "default" 1), { world with built := 1 }, 0,
        [.connected ⟨"default", 0⟩ (client "default" 1), .connecting ⟨"default", 0⟩]⟩
    let moves : List (Move Simulated.Client) := [.advance 0, .advance 0, .advance 0]
    let s := ((Pool.ofJobs [.resolve (some "staging")] s₀).run g f moves).state
    let list : Request := { verb := .list, kind := "node", context := some "staging" }
    let r := execute g f ⟨"ann", .reader⟩ list s
    State.start? f first [staging] 0 world = some (.ok s₀) ∧
      s.registry.slots (s.registry.current "staging") = .ready (client "staging" 2) ∧
      r.2.registry.slots (r.2.registry.current "staging") = .empty ∧ s.registry.SameAt r.2.registry "default" := by
  intro node g f first staging world client s₀ moves s list r
  have hs : State.start? f first [staging] 0 world = some (.ok s₀) := rfl
  have hfilled : s.registry.slots (s.registry.current "staging") = .ready (client "staging" 2) := by decide +kernel
  have hlost : r.1.any Envelope.lost = true := by decide +kernel
  have hselect : s.registry.contexts.select list.context = .ok staging := rfl
  have hauthorize : g.catalog.authorize ⟨"ann", .reader⟩ list.kind list.verb = .ok node := by decide +kernel
  have hresolve := resolveWithin_of_ready g f hselect hfilled (deadlineOf g list s)
  obtain ⟨-, hfoot⟩ := execute_footprint g f hs [.resolve (some "staging")] moves ⟨"ann", .reader⟩ list
  rw [hauthorize, hselect] at hfoot
  obtain ⟨hothers, hfoot⟩ := hfoot
  rw [hresolve] at hfoot
  obtain ⟨_, -, -, hcontent⟩ := hfoot
  rw [if_pos hlost] at hcontent
  exact ⟨hs, hfilled, hcontent, hothers "default" (by decide)⟩

end Gateway

end ClusterGateway
