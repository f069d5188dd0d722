import ClusterGateway.Proofs.Gateway.Stages
import ClusterGateway.Simulated.Fleet

/-!
# Requests that come too late

A deadline that has passed turns nobody away. Each stage of such a request still takes what is there
at once, and drops only what would have to be waited for. So it remains without effect where it is
refused in any case, and where somebody else is building its client.
-/

namespace ClusterGateway

variable {σ κ : Type}

/-! ## Nothing is waited for -/

namespace Reply

variable {α β : Type}

/-- What is not there at once is never there. -/
def hasty : Reply σ α → Reply σ α
  | now answer => now answer
  | _ => never

theorem hasty_map (f : α → β) (reply : Reply σ α) : reply.hasty.map f = (reply.map f).hasty := by
  cases reply <;> rfl

theorem awaitUntil_hasty (reply : Reply σ α) {d clock : Instant} (hd : d ≤ clock) (world : σ) :
    reply.hasty.awaitUntil (some d) clock world = reply.awaitUntil (some d) clock world := by
  cases reply with
  | now answer => rfl
  | later wait finish =>
    have hlate : (some d).filter (fun d => d ≤ clock ∨ d < clock + wait) = some d := by simp [hd]
    simp only [hasty, awaitUntil, hlate]
  | never => rfl

@[simp] theorem wait_hasty (reply : Reply σ α) : reply.hasty.wait = 0 := by
  cases reply <;> rfl

theorem wait_of_late {reply : Reply σ α} {d clock : Instant} (hd : d ≤ clock) {world world' : σ} {answer : α}
    (h : reply.awaitUntil (some d) clock world = .answered answer world') : reply.wait = 0 :=
  (wait_of_awaitUntil h).resolve_right fun hin => absurd hin.1 (Nat.not_lt.mpr hd)

theorem awaitUntil_ne_never (reply : Reply σ α) (d clock : Instant) (world : σ) :
    reply.awaitUntil (some d) clock world ≠ .never := by
  intro h
  cases reply with
  | now answer => cases h
  | later wait finish =>
    simp only [awaitUntil] at h
    split at h <;> cases h
  | never => cases h

end Reply

def Fleet.hasty (f : Fleet σ κ) : Fleet σ κ where
  connect context world := ((f.connect context world).1.hasty, (f.connect context world).2)
  call client c world := ((f.call client c world).1.hasty, (f.call client c world).2)
  describe context kind ns name world :=
    ((f.describe context kind ns name world).1.hasty, (f.describe context kind ns name world).2)

theorem Effect.start_hasty (f : Fleet σ κ) (kind : ResourceKind) (context : ClusterContext) (client : κ)
    (e : Effect) (world : σ) :
    e.start f.hasty kind context client world =
      ((e.start f kind context client world).1.hasty, (e.start f kind context client world).2) := by
  cases e with
  | call c => rfl
  | describe ns name => exact Prod.ext (Reply.hasty_map _ _) rfl

namespace State

variable {f : Fleet σ κ} {d : Instant} {context : ClusterContext} {slot : SlotId} {s : State σ κ}

theorem fetch_hasty (hd : d ≤ s.clock) :
    s.fetch f.hasty (some d) context slot = s.fetch f (some d) context slot := by
  unfold fetch
  cases s.registry.slots slot with
  | ready client => rfl
  | building => rfl
  | empty =>
    simp only [Fleet.hasty, clock_record, Reply.awaitUntil_hasty _ hd, Reply.wait_hasty]
    cases h : (f.connect context s.world).1.awaitUntil (some d) s.clock (f.connect context s.world).2 with
    | answered outcome world => simp only [Reply.wait_of_late hd h]
    | late d => rfl
    | never => rfl

theorem fetch_of_building (hb : s.registry.slots slot = .building) (hd : d ≤ s.clock) :
    s.fetch f (some d) context slot = (some (.error (.expired "context resolve")), s) := by
  have hsame : s.atLeast d = s := by rw [atLeast, Nat.max_eq_left hd]
  simp only [fetch, hb, hsame]

theorem fetch_fst_ne_none (f : Fleet σ κ) (d : Instant) (context : ClusterContext) (slot : SlotId)
    (s : State σ κ) :
    (s.fetch f (some d) context slot).1 ≠ none := by
  generalize hr : s.fetch f (some d) context slot = r
  cases fetched_of_eq hr with
  | stuck _ hd => cases hd
  | hung _ hreply => exact absurd hreply (Reply.awaitUntil_ne_never _ _ _ _)
  | _ => exact Option.some_ne_none _

variable [DecidableEq κ]

theorem perform_hasty (g : Settings) (ticket : Nat) (kind : ResourceKind) (verb : Verb) (client : κ) (e : Effect)
    (hd : d ≤ s.clock) :
    s.perform g f.hasty ticket (some d) kind verb context client e =
      s.perform g f ticket (some d) kind verb context client e := by
  unfold perform
  simp only [Effect.start_hasty, Reply.hasty_map, clock_record, Reply.awaitUntil_hasty _ hd, Reply.wait_hasty]
  split
  · next h => rw [← Reply.wait_map, Reply.wait_of_late hd h]
  · rfl
  · rfl

theorem perform_fst_ne_none (g : Settings) (f : Fleet σ κ) (ticket : Nat) (d : Instant) (kind : ResourceKind)
    (verb : Verb) (context : ClusterContext) (client : κ) (e : Effect) (s : State σ κ) :
    (s.perform g f ticket (some d) kind verb context client e).1 ≠ none := by
  rw [perform_fst]
  split
  · exact Option.some_ne_none _
  · exact Option.some_ne_none _
  · next h => exact absurd h (Reply.awaitUntil_ne_never _ _ _ _)

end State

/-! ## Without effect -/

def Failure.Category.turnsAway : Category → Bool
  | unsupportedKind | verbUnsupported | insufficientAccess | unknownContext | cancelled => true
  | connection | notFound | alreadyExists | validation | conflict | externalTool | clusterApi => false

theorem Catalog.turnsAway_of_authorize {c : Catalog} {p : Principal} {kind : String} {verb : Verb} {failure : Failure}
    (h : c.authorize p kind verb = .error failure) : failure.category.turnsAway = true := by
  rw [authorize_eq] at h
  split at h
  · cases h
    rfl
  · split at h
    · cases h
      rfl
    · split at h
      · cases h
      · cases h
        rfl

theorem Contexts.turnsAway_of_select {c : Contexts} {id : Option String} {failure : Failure}
    (h : c.select id = .error failure) : failure.category.turnsAway = true := by
  unfold select at h
  split at h
  · cases h
  · cases h
    rfl

theorem Effect.not_turnsAway_of_ofRequest {kind : ResourceKind} {q : Request} {failure : Failure}
    (hv : kind.supports q.verb = true) (h : ofRequest kind q = .error failure) :
    failure.category.turnsAway = false := by
  rw [ofRequest, if_pos hv] at h
  obtain ⟨refusal, -, rfl⟩ : ∃ refusal, plan kind q = .error refusal ∧ refusal.failure = failure := by
    cases hplan : plan kind q with
    | error refusal =>
      rw [hplan] at h
      exact ⟨refusal, rfl, Except.error.inj h⟩
    | ok e =>
      rw [hplan] at h
      cases h
  rfl

namespace Gateway

variable [DecidableEq κ] (g : Settings) (f : Fleet σ κ) (p : Principal) (q : Request) (s : State σ κ)

/-- The request starts no construction and no operation, and is told that it is turned away. -/
structure TurnsAway : Prop where
  starts : s.Starts (execute g f p q s).2 0 []
  told : ∃ fault, fault.category.turnsAway = true ∧ (execute g f p q s).1 = some (.error fault)

variable {g f p q s} {d : Instant} {kind : ResourceKind} {context : ClusterContext} {failure : Failure}

theorem turnsAway_of_eq (hf : failure.category.turnsAway = true)
    (h : execute g f p q s = (some (.error (.ofFailure failure)), s)) : TurnsAway g f p q s := by
  constructor
  · rw [h]
    exact .refl s 0
  · exact ⟨.ofFailure failure, hf, by rw [h]⟩

/-- Past its deadline a request comes to the same whether what is not there at once comes later or
never. -/
theorem execute_hasty (h : deadlineOf g q s = some d) (hd : d ≤ s.clock) :
    execute g f.hasty p q s = execute g f p q s := by
  cases ha : g.catalog.authorize p q.kind q.verb with
  | error failure => rw [execute_of_denied ha, execute_of_denied ha]
  | ok kind =>
    cases hs : s.registry.contexts.select q.context with
    | error failure => rw [execute_of_unknown ha hs, execute_of_unknown ha hs]
    | ok context =>
      have hfetch : s.fetch f.hasty (some d) context (s.registry.current context.id) = s.fetch f (some d) context _ :=
        State.fetch_hasty hd
      rcases hf : s.fetch f (some d) context (s.registry.current context.id) with ⟨_ | failure | client, s₁⟩ <;>
        rw [hf] at hfetch <;> rw [← h] at hf hfetch
      · rw [execute_of_hung ha hs hf, execute_of_hung ha hs hfetch]
      · rw [execute_of_unresolved ha hs hf, execute_of_unresolved ha hs hfetch]
      · have hd₁ : d ≤ s₁.clock := by
          rw [State.clock_of_fetch hf]
          exact Nat.le_add_right_of_le hd
        rw [execute_of_resolved ha hs hf, execute_of_resolved ha hs hfetch]
        simp only [h, State.perform_hasty _ _ _ _ _ _ hd₁]

theorem execute_ne_none_of_late (h : deadlineOf g q s = some d) : (execute g f p q s).1 ≠ none := by
  cases ha : g.catalog.authorize p q.kind q.verb with
  | error failure => simp [execute_of_denied ha]
  | ok kind =>
    cases hs : s.registry.contexts.select q.context with
    | error failure => simp [execute_of_unknown ha hs]
    | ok context =>
      rcases hf : s.fetch f (deadlineOf g q s) context (s.registry.current context.id) with
        ⟨_ | failure | client, s₁⟩
      · exact absurd (by rw [← h, hf]) (State.fetch_fst_ne_none f d context (s.registry.current context.id) s)
      · simp [execute_of_unresolved ha hs hf]
      · rw [execute_of_resolved ha hs hf]
        cases Effect.ofRequest kind q with
        | error failure => simp
        | ok e =>
          have hperform := State.perform_fst_ne_none g f 0 d kind q.verb context client e s₁
          simpa [h] using hperform

theorem TurnsAway.notMem (h : TurnsAway g f p q s) {es : List (Event κ)}
    (hes : (execute g f p q s).2.journal = es ++ s.journal) {e : Event κ} (he : e ∈ es) :
    e.isConnecting = false ∧ e.isOperation = false := by
  obtain ⟨es', hj, hconnecting, hoperations⟩ := h.starts
  obtain rfl : es = es' := List.append_cancel_right (hes.symm.trans hj)
  constructor
  · have hnone := List.countP_eq_zero.mp (Nat.le_zero.mp hconnecting) e he
    simpa using hnone
  · simpa using List.filter_eq_nil_iff.mp hoperations e he

section
variable (ha : g.catalog.authorize p q.kind q.verb = .ok kind)
  (hs : s.registry.contexts.select q.context = .ok context)
include ha hs

theorem exists_journal_fetch {s₁ : State σ κ} {outcome : Option (Outcome κ)}
    (hf : s.fetch f (deadlineOf g q s) context (s.registry.current context.id) = (outcome, s₁)) :
    ∃ es, (execute g f p q s).2.journal = es ++ s₁.journal := by
  rcases outcome with _ | failure | client
  · exact ⟨[], by rw [execute_of_hung ha hs hf]; rfl⟩
  · exact ⟨[], by rw [execute_of_unresolved ha hs hf]; rfl⟩
  · rw [execute_of_resolved ha hs hf]
    split
    · exact ⟨[], rfl⟩
    · next e _ =>
      obtain ⟨es, hj, -⟩ := s₁.starts_perform g f 0 (deadlineOf g q s) kind q.verb context client e
      exact ⟨es, hj⟩

theorem not_turnsAway_of_empty (he : s.registry.slots (s.registry.current context.id) = .empty) :
    ¬ TurnsAway g f p q s := by
  intro h
  obtain ⟨es, hj⟩ := s.connecting_of_fetch f (deadlineOf g q s) context he
  obtain ⟨es', hj'⟩ := exists_journal_fetch ha hs (Prod.eta _).symm
  rw [hj, ← List.append_assoc, List.append_cons] at hj'
  obtain ⟨hnot, -⟩ := h.notMem hj' (List.mem_append_right _ (List.mem_singleton_self _))
  cases hnot

theorem not_turnsAway_of_ready {client : κ}
    (hr : s.registry.slots (s.registry.current context.id) = .ready client) : ¬ TurnsAway g f p q s := by
  intro h
  have hf : s.fetch f (deadlineOf g q s) context (s.registry.current context.id) = (some (.ok client), s) := by
    simp only [State.fetch, hr]
  have hexecute := execute_of_resolved ha hs hf
  cases hplan : Effect.ofRequest kind q with
  | error failure =>
    rw [hplan] at hexecute
    obtain ⟨fault, hfault, htold⟩ := h.told
    rw [hexecute] at htold
    cases htold
    have hnot := Effect.not_turnsAway_of_ofRequest (Catalog.supports_of_authorize ha) hplan
    rw [show (Fault.ofFailure failure).category = failure.category from rfl, hnot] at hfault
    cases hfault
  | ok e =>
    simp only [hplan] at hexecute
    obtain ⟨es, hj, -, hoperations⟩ := s.starts_perform g f 0 (deadlineOf g q s) kind q.verb context client e
    have hmem : e.event 0 kind context client ∈ es.filter Event.isOperation := by
      rw [hoperations]
      exact List.mem_singleton_self _
    obtain ⟨hmem, hoperation⟩ := List.mem_filter.mp hmem
    have hnot := h.notMem (by rw [hexecute]; exact hj) hmem
    rw [hnot.2] at hoperation
    cases hoperation

end

/-- In every state a request whose deadline has passed is turned away, with nothing started, exactly if the gate
refuses it, its context is not known, or somebody else is building its client. Otherwise it starts what it
would in time, and is cancelled only for what it would have to wait for. -/
theorem late_turnsAway_iff (h : deadlineOf g q s = some d) (hd : d ≤ s.clock) :
    (TurnsAway g f p q s ↔
      (∃ failure, g.catalog.authorize p q.kind q.verb = .error failure) ∨
      (∃ failure, s.registry.contexts.select q.context = .error failure) ∨
      ∃ context, s.registry.contexts.select q.context = .ok context ∧
        s.registry.slots (s.registry.current context.id) = .building) ∧
    execute g f.hasty p q s = execute g f p q s ∧ (execute g f p q s).1 ≠ none := by
  refine ⟨?_, execute_hasty h hd, execute_ne_none_of_late h⟩
  constructor
  · intro haway
    cases ha : g.catalog.authorize p q.kind q.verb with
    | error failure => exact .inl ⟨failure, rfl⟩
    | ok kind =>
      cases hs : s.registry.contexts.select q.context with
      | error failure => exact .inr (.inl ⟨failure, rfl⟩)
      | ok context =>
        cases hslot : s.registry.slots (s.registry.current context.id) with
        | building => exact .inr (.inr ⟨context, rfl, hslot⟩)
        | empty => exact absurd haway (not_turnsAway_of_empty ha hs hslot)
        | ready client => exact absurd haway (not_turnsAway_of_ready ha hs hslot)
  · intro hcases
    cases ha : g.catalog.authorize p q.kind q.verb with
    | error failure => exact turnsAway_of_eq (Catalog.turnsAway_of_authorize ha) (execute_of_denied ha)
    | ok kind =>
      cases hs : s.registry.contexts.select q.context with
      | error failure => exact turnsAway_of_eq (Contexts.turnsAway_of_select hs) (execute_of_unknown ha hs)
      | ok context =>
        rw [ha, hs] at hcases
        rcases hcases with ⟨failure, hno⟩ | ⟨failure, hno⟩ | ⟨context', hcontext, hb⟩
        · cases hno
        · cases hno
        · cases hcontext
          have hf : s.fetch f (deadlineOf g q s) context (s.registry.current context.id) =
              (some (.error (.expired "context resolve")), s) := by
            rw [h]
            exact State.fetch_of_building hb hd
          exact turnsAway_of_eq rfl (execute_of_unresolved ha hs hf)

theorem late_turnsAway_of_building :
    let pod : ResourceKind := ⟨"pod", [], ⟨"", "v1", "Pod", "pods"⟩, .namespaced, .uniform .reader, "", ""⟩
    let g : Settings := ⟨⟨[pod], by cbv⟩, ⟨[]⟩, none⟩
    let f := Simulated.fleet .echo
    let staging : ClusterContext := ⟨"staging", .inCluster⟩
    let slot : SlotId := ⟨"staging", 0⟩
    let registry : Registry Simulated.Client :=
      .start ⟨⟨"default", .inCluster⟩, [staging], by decide⟩ ⟨"default", 1⟩
    let s : State Simulated.World Simulated.Client :=
      ⟨registry.put slot .building, .empty, 10, [.connecting slot]⟩
    let q : Request := { verb := .list, kind := "pod", context := some "staging", deadline := some 9 }
    deadlineOf g q s = some 9 ∧ 9 ≤ s.clock ∧ TurnsAway g f ⟨"ann", .reader⟩ q s := by
  intro pod g f staging slot registry s q
  have hlate : deadlineOf g q s = some 9 := rfl
  have hbuilding : s.registry.slots (s.registry.current "staging") = .building := rfl
  have hcases := (late_turnsAway_iff (f := f) (p := ⟨"ann", .reader⟩) hlate (by decide)).1
  exact ⟨hlate, by decide, hcases.mpr (.inr (.inr ⟨staging, rfl, hbuilding⟩))⟩

/-- A deletion whose deadline has passed is carried out: the object is gone. -/
theorem not_late_turnsAway_of_delete :
    let pod : ResourceKind := ⟨"pod", [], ⟨"", "v1", "Pod", "pods"⟩, .namespaced, .uniform .reader, "", ""⟩
    let g : Settings := ⟨⟨[pod], by cbv⟩, ⟨[]⟩, none⟩
    let f := Simulated.fleet .echo
    let object : Json := .obj [("metadata", .obj [("name", .str "web-0"), ("namespace", .str "apps")])]
    let client : Simulated.Client := ⟨"default", 1⟩
    let s : State Simulated.World Simulated.Client :=
      ⟨.start ⟨⟨"default", .inCluster⟩, [], by decide⟩ client,
        Simulated.World.empty.putStore "default" (Simulated.Store.empty.seed "pods" object), 10, []⟩
    let q : Request :=
      { verb := .delete, kind := "pod", ns := some "apps", name := some "web-0", deadline := some 9 }
    let r := execute g f ⟨"ann", .reader⟩ q s
    deadlineOf g q s = some 9 ∧ 9 ≤ s.clock ∧ ¬ TurnsAway g f ⟨"ann", .reader⟩ q s ∧
      r.2.journal = [.called 0 client ⟨pod.api, some "apps", .delete "web-0"⟩] ∧
      (s.world.store "default").get? ⟨"pods", "apps", "web-0"⟩ ≠ none ∧
      (r.2.world.store "default").get? ⟨"pods", "apps", "web-0"⟩ = none := by
  intro pod g f object client s q r
  have hcalled : r.2.journal = [.called 0 client ⟨pod.api, some "apps", .delete "web-0"⟩] := by decide +kernel
  refine ⟨rfl, by decide, ?_, hcalled, by decide +kernel, by decide +kernel⟩
  intro h
  obtain ⟨-, hnone⟩ := h.notMem hcalled (List.mem_singleton_self _)
  cases hnone

end Gateway

end ClusterGateway
