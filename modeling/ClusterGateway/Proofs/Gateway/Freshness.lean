import ClusterGateway.Proofs.Gateway.Eviction
import ClusterGateway.Proofs.Gateway.Ownership

/-!
# Clients are fresh after an invalidation

An invalidation moves its context on to a slot that nobody has read, and a call for a client fills a
slot that was read before. So whoever reads the registry after the invalidation is handed a client
that was called for after it. What was under way by then fills a slot that nobody reads any more.
-/

namespace ClusterGateway

variable {σ κ : Type}

namespace State

theorem invalidate_of_true {s : State σ κ} {id : String} (h : (s.invalidate id).1 = true) :
    (s.invalidate id).2 = s.evict id := by
  rcases s.invalidate_cases id with hi | hi
  · rw [hi]
  · rw [hi] at h
    cases h

theorem invalidateClient_of_true [DecidableEq κ] {s : State σ κ} {id : String} {client : κ}
    (h : (s.invalidateClient id client).1 = true) : (s.invalidateClient id client).2 = s.evict id := by
  rcases s.invalidateClient_cases id client with hi | hi
  · rw [hi]
  · rw [hi] at h
    cases h

end State

namespace Stage

def isArrived : Stage σ κ → Bool
  | .arrived => true
  | _ => false

theorem eq_arrived_of_isArrived {st : Stage σ κ} (h : st.isArrived = true) : st = .arrived := by
  cases st with
  | arrived => rfl
  | _ => cases h

end Stage

namespace Pool

/-- The task has not read the registry yet. -/
def Arrives (p : Pool σ κ) (i : Nat) : Prop :=
  p.tasks[i]?.any (·.stage.isArrived) = true

instance (p : Pool σ κ) (i : Nat) : Decidable (p.Arrives i) :=
  inferInstanceAs (Decidable (_ = _))

section
variable [DecidableEq κ] (p : Pool σ κ)

/-- In this move the context is invalidated: somebody asks for it, or gives up the client that it is
cached with, or a request reports that the connection of this client has failed. -/
inductive Invalidates : Move κ → String → Prop
  | asked {id : String} (h : (p.state.invalidate id).1 = true) : Invalidates (.invalidate id) id
  | givenUp {id : String} {client : κ} (h : (p.state.invalidateClient id client).1 = true) :
    Invalidates (.invalidateClient id client) id
  | reported {i : Nat} {context : ClusterContext} {client : κ} {failure : Failure}
    (hf : p.Failed i context client failure) (h : (p.state.invalidateClient context.id client).1 = true) :
    Invalidates (.advance i) context.id

end

variable [DecidableEq κ] {g : Settings} {f : Fleet σ κ} {moves : List (Move κ)}

theorem generation_of_invalidates (g : Settings) (f : Fleet σ κ) {p : Pool σ κ} {m : Move κ} {id : String}
    (h : p.Invalidates m id) :
    (p.step g f m).state.registry.generation id = p.state.registry.generation id + 1 := by
  have evicted : ∀ {id}, (p.state.evict id).registry.generation id = p.state.registry.generation id + 1 := by
    intro id
    rw [State.registry_evict, Registry.generation_evict, if_pos rfl]
  cases h with
  | asked h =>
    simp only [step, State.invalidate_of_true h]
    exact evicted
  | givenUp h =>
    simp only [step, State.invalidateClient_of_true h]
    exact evicted
  | reported hf h =>
    rw [step_of_failed g f hf, State.invalidateClient_of_true h]
    exact evicted

theorem invalidates_of_generation (g : Settings) (f : Fleet σ κ) {p : Pool σ κ} {m : Move κ} {id : String}
    (h : (p.step g f m).state.registry.generation id ≠ p.state.registry.generation id) : p.Invalidates m id := by
  -- an eviction leaves the other contexts where they are
  have evicted : ∀ {id'}, (p.state.evict id').registry.generation id ≠ p.state.registry.generation id → id' = id := by
    intro id' hne
    by_contra hid
    rw [State.registry_evict, Registry.generation_evict, if_neg (Ne.symm hid)] at hne
    exact hne rfl
  generalize hp' : p.step g f m = p' at h
  cases moved_of_eq hp' with
  | still => exact absurd rfl h
  | @advance i t ht =>
    rcases t.advance_turns g f p.state with hturn | ⟨hsame, -⟩
    · rcases hturn.2.2.generation_cases with hg | ⟨context, client, failure, hst, hf, -⟩
      · rw [hg] at h
        exact absurd rfl h
      · have hfailed : p.Failed i context client failure := failed_iff.mpr ⟨t, ht, hst, hf⟩
        rw [← hp', step_of_failed g f hfailed] at h
        rcases p.state.invalidateClient_cases context.id client with hi | hi
        · rw [hi] at h
          obtain rfl := evicted h
          exact .reported hfailed (by rw [hi])
        · rw [hi] at h
          exact absurd rfl h
    · rw [hsame] at h
      exact absurd rfl h
  | @abandon i t ht =>
    rw [t.generation_abandon] at h
    exact absurd rfl h
  | invalidate id' =>
    rcases p.state.invalidate_cases id' with hi | hi
    · rw [hi] at h
      obtain rfl := evicted h
      exact .asked (by rw [hi])
    · rw [hi] at h
      exact absurd rfl h
  | invalidateClient id' client =>
    rcases p.state.invalidateClient_cases id' client with hi | hi
    · rw [hi] at h
      obtain rfl := evicted h
      exact .givenUp (by rw [hi])
    · rw [hi] at h
      exact absurd rfl h
  | tick moment => exact absurd rfl h

omit [DecidableEq κ] in
theorem Asks.exists_context {p : Pool σ κ} {i : Nat} {slot : SlotId} (h : p.Asks i slot) :
    ∃ t context, p.tasks[i]? = some t ∧ t.stage.slot? = some slot ∧ t.stage.context? = some context := by
  obtain ⟨t, ht, hs⟩ := Option.bind_eq_some_iff.mp h
  cases hst : t.stage with
  | resolving errand context slot' => exact ⟨t, context, ht, hs, by rw [hst]; rfl⟩
  | connecting errand context slot' finish => exact ⟨t, context, ht, hs, by rw [hst]; rfl⟩
  | _ =>
    rw [hst] at hs
    cases hs

/-! ## Young slots -/

section
variable {jobs : List Job} {s : State σ κ} {n : Nat} {m : Move κ} {id : String}
  (hm : moves[n]? = some m) (hi : ((ofJobs jobs s).after g f moves n).Invalidates m id)
include hm hi

theorem generation_lt_after {k : Nat} (hk : n < k) :
    ((ofJobs jobs s).after g f moves n).state.registry.generation id <
      ((ofJobs jobs s).after g f moves k).state.registry.generation id := by
  have hnext := generation_of_invalidates g f hi
  have hlater := ((Orderly.ofJobs jobs s).extends_after g f moves (Nat.succ_le_of_lt hk)).generation_le id
  rw [after_succ g f _ moves hm, hnext] at hlater
  exact hlater

theorem young_of_draws {i r k : Nat} (hr : n < r) (hrk : r ≤ k)
    (ha : ((ofJobs jobs s).after g f moves r).Arrives i) {t : Task σ κ} {context : ClusterContext}
    (ht : ((ofJobs jobs s).after g f moves k).tasks[i]? = some t) (hc : t.stage.context? = some context)
    (hid : context.id = id) : ∃ slot : SlotId, slot.context = id ∧
      ((ofJobs jobs s).after g f moves n).state.registry.generation id < slot.generation ∧
      t.stage.Served slot ((ofJobs jobs s).after g f moves k).state.registry := by
  have harrived : ∀ t, ((ofJobs jobs s).after g f moves r).tasks[i]? = some t → t.stage = .arrived := by
    intro t ht
    rw [Arrives, ht] at ha
    exact Stage.eq_arrived_of_isArrived ha
  obtain ⟨slot, hslot, hsince, hserved⟩ := draws_after jobs s hrk harrived ht context hc
  rw [hid] at hslot hsince
  exact ⟨slot, hslot, Nat.lt_of_lt_of_le (generation_lt_after hm hi hr) hsince, hserved⟩

theorem young_of_resolves {i r k : Nat} (hr : n < r) (hrk : r ≤ k)
    (ha : ((ofJobs jobs s).after g f moves r).Arrives i) {context : ClusterContext} {client : κ}
    (hres : ((ofJobs jobs s).after g f moves k).Resolves i context client) (hid : context.id = id) :
    ∃ slot : SlotId, slot.context = id ∧
      ((ofJobs jobs s).after g f moves n).state.registry.generation id < slot.generation ∧
      ((ofJobs jobs s).after g f moves k).state.registry.slots slot = .ready client := by
  obtain ⟨t, ht, hc, hclient⟩ := hres
  obtain ⟨slot, hslot, hyoung, hserved⟩ := young_of_draws hm hi hr hrk ha ht hc hid
  exact ⟨slot, hslot, hyoung, hserved.ready hclient⟩

end

theorem old_of_connects {jobs : List Job} {s : State σ κ} {j b n : Nat} (hb : b ≤ n) {context : ClusterContext}
    {slot : SlotId} (hc : (ofJobs jobs s).Connects g f moves j b context slot) : slot.context = context.id ∧
      slot.generation ≤ ((ofJobs jobs s).after g f moves n).state.registry.generation context.id := by
  have hknown := hc.known (.ofJobs jobs s)
  rw [hc.owns.2] at hknown
  exact ⟨hc.owns.2, Nat.le_trans hknown (((Orderly.ofJobs jobs s).extends_after g f moves hb).generation_le _)⟩

/-! ## Fresh clients -/

section
variable (g f)

/-- From the start on, once a context has been invalidated, whoever reads the registry is handed a client that
was called for after this. What an earlier call comes to goes into a slot that nobody asks for any more. -/
theorem fresh_after_invalidation {first : ClusterContext} {named : List ClusterContext} {clock : Instant}
    {world : σ} {s : State σ κ} (h : State.start? f first named clock world = some (.ok s)) (jobs : List Job)
    (moves : List (Move κ)) {n : Nat} {m : Move κ} {id : String} (hm : moves[n]? = some m)
    (hi : ((ofJobs jobs s).after g f moves n).Invalidates m id) :
    let p := (ofJobs jobs s).after g f moves
    (∀ i r k context client, n < r → r ≤ k → (p r).Arrives i → (p k).Resolves i context client → context.id = id →
      ∃ j b slot e, n < b ∧ e < k ∧ (ofJobs jobs s).Constructs g f moves j b context slot e (.ok client)) ∧
    (∀ j b context slot, b ≤ n → (ofJobs jobs s).Connects g f moves j b context slot → context.id = id →
      (∀ k, n < k → (p k).state.registry.current id ≠ slot) ∧
      (∀ i r k, n < r → r ≤ k → (p r).Arrives i → ¬ (p k).Asks i slot) ∧
      ∀ e client, (ofJobs jobs s).Constructs g f moves j b context slot e (.ok client) →
        (Journal.clients ((ofJobs jobs s).run g f moves).state.journal).Nodup →
        (∀ k, n < k → ¬ (p k).Caches id client) ∧
        ∀ i r k context' client', n < r → r ≤ k → (p r).Arrives i → (p k).Resolves i context' client' →
          context'.id = id → client' ≠ client) := by
  intro p
  have ho : (ofJobs jobs s).Orderly := .ofJobs jobs s
  have hhistory := (history_of_start? g f h jobs moves).2
  -- what is in a slot at some moment is noted in the end
  have noted : ∀ {k slot client}, (p k).state.registry.slots slot = .ready client →
      .connected slot client ∈ ((ofJobs jobs s).run g f moves).state.journal := by
    intro k slot client hr
    exact (hhistory.mem_connected_iff slot client).mpr ((ho.extends_run g f moves k).ready hr)
  refine ⟨?_, ?_⟩
  · intro i r k context client hr hrk ha hres hid
    obtain ⟨slot, hslot, hyoung, hready⟩ := young_of_resolves hm hi hr hrk ha hres hid
    rcases origin_of_ready jobs s k hready with hstart | ⟨j, b, context', e, he, hcons⟩
    · obtain ⟨rfl, -⟩ := State.ready_of_start? h hstart
      exact absurd hyoung (Nat.not_lt_zero _)
    · have hc := hcons.connects
      have hid' : context'.id = id := hc.owns.2.symm.trans hslot
      obtain ⟨t, ht, hcontext, -⟩ := hres
      have hmem := (Contexts.mem_of_select (select_of_context? jobs s k ht hcontext)).1
      obtain rfl : context' = context := Contexts.eq_of_id hc.owns.1 hmem (hid'.trans hid.symm)
      refine ⟨j, b, slot, e, ?_, he, hcons⟩
      by_contra hb
      obtain ⟨-, hold⟩ := old_of_connects (Nat.le_of_not_lt hb) hc
      rw [hid'] at hold
      exact absurd hyoung (Nat.not_lt_of_le hold)
  · intro j b context slot hb hc hid
    obtain ⟨hslot, hold⟩ := old_of_connects hb hc
    rw [hid] at hold
    have left : ∀ {k}, n < k → (p k).state.registry.current id ≠ slot := by
      intro k hk hcurrent
      have hlt := generation_lt_after hm hi hk
      rw [← hcurrent] at hold
      exact absurd hlt (Nat.not_lt_of_le hold)
    refine ⟨fun k => left, ?_, ?_⟩
    · intro i r k hr hrk ha hasks
      obtain ⟨t, context', ht, hs, hc'⟩ := hasks.exists_context
      have hid' : context'.id = id := by
        rw [← (owns_of_slot? jobs s k ht hs hc').2, hslot, hid]
      obtain ⟨slot', -, hyoung, hserved⟩ := young_of_draws hm hi hr hrk ha ht hc' hid'
      rw [hserved.slot_eq hs] at hyoung
      exact absurd hyoung (Nat.not_lt_of_le hold)
    · intro e client hcons hfresh
      have hclient := noted hcons.ended.2
      refine ⟨fun k hk hcaches => ?_, fun i r k context' client' hr hrk ha hres hid' => ?_⟩
      · exact left hk (Journal.slot_unique hfresh (noted hcaches) hclient)
      · rintro rfl
        obtain ⟨slot', -, hyoung, hready⟩ := young_of_resolves hm hi hr hrk ha hres hid'
        rw [Journal.slot_unique hfresh (noted hready) hclient] at hyoung
        exact absurd hyoung (Nat.not_lt_of_le hold)

theorem fresh_after_invalidation_of_straddled :
    let g : Settings := ⟨⟨[], rfl⟩, ⟨[]⟩, none⟩
    let f := Simulated.fleet .echo
    let first : ClusterContext := ⟨"default", .inCluster⟩
    let staging : ClusterContext := ⟨"staging", .inCluster⟩
    let world : Simulated.World := { Simulated.World.empty with slowConnect := true }
    let old : Simulated.Client := ⟨"staging", 2⟩
    let new : Simulated.Client := ⟨"staging", 3⟩
    let s : State Simulated.World Simulated.Client :=
      ⟨.start ⟨first, [staging], by decide⟩ ⟨"default", 1⟩, { world with built := 1 }, 0,
        [.connected ⟨"default", 0⟩ ⟨"default", 1⟩, .connecting ⟨"default", 0⟩]⟩
    let jobs : List Job := [.resolve (some "staging"), .resolve (some "staging")]
    let moves : List (Move Simulated.Client) := [.advance 0, .advance 0, .invalidate "staging", .advance 1,
      .advance 1, .advance 0, .advance 1]
    let p := (ofJobs jobs s).after g f moves
    State.start? f first [staging] 0 world = some (.ok s) ∧ (p 2).Invalidates (.invalidate "staging") "staging" ∧
      (p 3).Arrives 1 ∧ (p 7).Resolves 1 staging new ∧
      (∃ j b slot e, 2 < b ∧ e < 7 ∧ (ofJobs jobs s).Constructs g f moves j b staging slot e (.ok new)) ∧
      (ofJobs jobs s).Connects g f moves 0 1 staging ⟨"staging", 0⟩ ∧
      (p 6).state.registry.slots ⟨"staging", 0⟩ = .ready old ∧
      (p 6).state.registry.current "staging" ≠ ⟨"staging", 0⟩ := by
  intro g f first staging world old new s jobs moves p
  have hs : State.start? f first [staging] 0 world = some (.ok s) := rfl
  have hi : (p 2).Invalidates (.invalidate "staging") "staging" := .asked (by decide +kernel)
  have harrives : (p 3).Arrives 1 := by decide +kernel
  have hresolves : (p 7).Resolves 1 staging new := by decide +kernel
  have hconnects : (ofJobs jobs s).Connects g f moves 0 1 staging ⟨"staging", 0⟩ :=
    connects_of_empty rfl (t := ⟨0, jobs[0], none, 0, .resolving .handOver staging ⟨"staging", 0⟩⟩) rfl rfl rfl
  obtain ⟨hfresh, hold⟩ := fresh_after_invalidation g f hs jobs moves rfl hi
  refine ⟨hs, hi, harrives, hresolves, ?_, hconnects, by decide +kernel, ?_⟩
  · exact hfresh 1 3 7 staging new (by decide) (by decide) harrives hresolves rfl
  · exact (hold 0 1 staging ⟨"staging", 0⟩ (by decide) hconnects rfl).1 6 (by decide)

end

end Pool

end ClusterGateway
