import ClusterGateway.Proofs.Gateway.Interleaving
import ClusterGateway.Proofs.Operation.Plan
import ClusterGateway.Simulated.Fleet

/-!
# A client is dropped for good reason, and once

A client leaves the cache only where somebody asks for it or a request that it served has lost
the connection. A context that has moved on from the slot of a client never comes back to it.
-/

namespace ClusterGateway

variable {σ κ : Type}

/-! ## Clients that were built -/

def Event.client? : Event κ → Option κ
  | .connected _ client => some client
  | _ => none

def Journal.clients (J : List (Event κ)) : List κ := J.filterMap Event.client?

theorem Journal.mem_clients {J : List (Event κ)} {slot : SlotId} {client : κ} (h : .connected slot client ∈ J) :
    client ∈ clients J :=
  List.mem_filterMap.mpr ⟨_, h, rfl⟩

theorem Journal.slot_unique {J : List (Event κ)} (h : (clients J).Nodup) {s t : SlotId} {client : κ}
    (hs : .connected s client ∈ J) (ht : .connected t client ∈ J) : s = t := by
  induction J with
  | nil => cases hs
  | cons e J ih =>
    have htail : (clients J).Nodup := h.sublist ((List.sublist_cons_self e J).filterMap _)
    rcases List.mem_cons.mp hs with rfl | hs' <;> rcases List.mem_cons.mp ht with he | ht'
    · cases he
      rfl
    · exact ((List.nodup_cons.mp h).1 (mem_clients ht')).elim
    · subst he
      exact ((List.nodup_cons.mp h).1 (mem_clients hs')).elim
    · exact ih htail hs' ht'

theorem State.Extends.clients_nodup {s s' : State σ κ} (he : s.Extends s')
    (h : (Journal.clients s'.journal).Nodup) : (Journal.clients s.journal).Nodup := by
  obtain ⟨es, hj, _⟩ := he
  rw [hj] at h
  exact h.sublist ((List.sublist_append_right es s.journal).filterMap _)

/-! ## Requests that have met a failure -/

def Stage.failed? : Stage σ κ → Option (ClusterContext × κ × Failure)
  | .answered context client (.error failure) =>
    if failure.isConnection then some (context, client, failure) else none
  | _ => none

theorem Stage.failed?_eq_some {st : Stage σ κ} {context : ClusterContext} {client : κ} {failure : Failure} :
    st.failed? = some (context, client, failure) ↔
      st = .answered context client (.error failure) ∧ failure.isConnection = true := by
  constructor
  · intro h
    unfold failed? at h
    split at h
    · split at h
      · next hf =>
        cases h
        exact ⟨rfl, hf⟩
      · cases h
    · cases h
  · rintro ⟨rfl, hf⟩
    simp [failed?, hf]

def Stage.Backed (ticket : Nat) (J : List (Event κ)) : Stage σ κ → Prop
  | .calling _ context client _ => ∃ e ∈ J, e.IsWork ticket context client
  | .answered context client (.error failure) =>
    failure.isConnection = true → ∃ e ∈ J, e.IsWork ticket context client
  | _ => True

theorem Stage.Backed.mono {ticket : Nat} {s s' : State σ κ} {st : Stage σ κ}
    (h : st.Backed ticket s.journal) (he : s.Extends s') : st.Backed ticket s'.journal := by
  cases st with
  | calling =>
    obtain ⟨e, hm, hw⟩ := h
    exact ⟨e, he.mem hm, hw⟩
  | answered context client outcome =>
    cases outcome with
    | ok => trivial
    | error failure =>
      intro hf
      obtain ⟨e, hm, hw⟩ := h hf
      exact ⟨e, he.mem hm, hw⟩
  | _ => trivial

theorem Turn.backed {ticket : Nat} {s s' : State σ κ} {st st' : Stage σ κ} (h : Turn ticket s st st' s')
    (hb : st.Backed ticket s.journal) : st'.Backed ticket s'.journal := by
  cases h with
  | begunAndSettled _ outcome => cases outcome <;> trivial
  | settled _ outcome => cases outcome <;> trivial
  | rejected hr =>
    intro hf
    rw [Effect.not_isConnection_of_ofRequest hr] at hf
    cases hf
  | @worked _ _ _ _ e world outcome hw =>
    cases outcome with
    | ok => trivial
    | error => exact fun _ => ⟨e, List.mem_cons_self, hw⟩
  | @working _ _ _ _ e world what finish hw => exact ⟨e, List.mem_cons_self, hw⟩
  | replied world outcome =>
    cases outcome with
    | ok => trivial
    | error => exact fun _ => hb
  | droppedCall => exact fun _ => hb
  | _ => trivial

theorem Turn.generation_cases {ticket : Nat} {s s' : State σ κ} {st st' : Stage σ κ}
    (h : Turn ticket s st st' s') :
    s'.registry.generation = s.registry.generation ∨
      ∃ context client failure, st = .answered context client (.error failure) ∧ failure.isConnection = true ∧
        s.registry.slots (s.registry.current context.id) = .ready client ∧
        st' = .finished (.error failure) ∧ s' = s.evict context.id := by
  cases h with
  | begunAndSettled _ outcome => cases outcome <;> exact .inl rfl
  | settled _ outcome => cases outcome <;> exact .inl rfl
  | @evicted context client failure hf hc => exact .inr ⟨context, client, failure, rfl, hf, hc, rfl, rfl⟩
  | _ => exact .inl rfl

/-! ## Caches -/

namespace Pool

/-- The client is the one that a context is cached with. -/
def Caches (p : Pool σ κ) (id : String) (client : κ) : Prop :=
  p.state.registry.slots (p.state.registry.current id) = .ready client

/-- Through the client the request has met a failed connection, which it has yet to report. -/
def Failed (p : Pool σ κ) (i : Nat) (context : ClusterContext) (client : κ) (failure : Failure) : Prop :=
  p.tasks[i]?.bind (·.stage.failed?) = some (context, client, failure)

/-- The move is the report of a connection that failed on the client, and the client is dropped. -/
def Evicts [DecidableEq κ] (p : Pool σ κ) (m : Move κ) (client : κ) : Prop :=
  ∃ i context failure, m = .advance i ∧ p.Failed i context client failure ∧
    (p.state.invalidateClient context.id client).1 = true

/-- The client was built for a slot that its context has moved on from. -/
def Retired (p : Pool σ κ) (client : κ) : Prop :=
  ∃ slot : SlotId, .connected slot client ∈ p.state.journal ∧
    slot.generation < p.state.registry.generation slot.context

instance [DecidableEq κ] (p : Pool σ κ) (id : String) (client : κ) : Decidable (p.Caches id client) :=
  inferInstanceAs (Decidable (_ = _))

instance [DecidableEq κ] (p : Pool σ κ) (i : Nat) (context : ClusterContext) (client : κ) (failure : Failure) :
    Decidable (p.Failed i context client failure) :=
  inferInstanceAs (Decidable (_ = _))

variable {p p' : Pool σ κ} {client : κ}

theorem failed_iff {i : Nat} {context : ClusterContext} {failure : Failure} :
    p.Failed i context client failure ↔ ∃ t, p.tasks[i]? = some t ∧
      t.stage = .answered context client (.error failure) ∧ failure.isConnection = true := by
  simp only [Failed, Option.bind_eq_some_iff, Stage.failed?_eq_some]

theorem Retired.later (h : p.Retired client) (he : p.state.Extends p'.state) : p'.Retired client := by
  obtain ⟨slot, hm, hg⟩ := h
  exact ⟨slot, he.mem hm, Nat.lt_of_lt_of_le hg (he.generation_le _)⟩

theorem Caches.later {id : String} {contexts : Contexts} (h : p.Caches id client)
    (hh : Registry.History (.blank contexts) p.state.journal p.state.registry)
    (he : p.state.Extends p'.state) : p'.Caches id client ∨ p'.Retired client := by
  by_cases hg : p.state.registry.generation id = p'.state.registry.generation id
  · refine .inl ?_
    rw [Caches, Registry.current, ← hg]
    exact he.ready h
  · refine .inr ⟨p.state.registry.current id, he.mem ((hh.mem_connected_iff _ _).mpr h), ?_⟩
    exact Nat.lt_of_le_of_ne (he.generation_le id) hg

theorem Retired.not_caches {contexts : Contexts} (h : p.Retired client)
    (hh : Registry.History (.blank contexts) p.state.journal p.state.registry)
    (hfresh : (Journal.clients p.state.journal).Nodup) (id : String) : ¬ p.Caches id client := by
  intro hc
  obtain ⟨slot, hm, hg⟩ := h
  have hs := Journal.slot_unique hfresh hm ((hh.mem_connected_iff _ _).mpr hc)
  rw [hs] at hg
  exact Nat.lt_irrefl _ hg

theorem Caches.of_generation_eq {id : String} (h : p.Caches id client) (he : p.state.Extends p'.state)
    (hg : p'.state.registry.generation id = p.state.registry.generation id) : p'.Caches id client := by
  rw [Caches, Registry.current, hg]
  exact he.ready h

theorem Changes.leaves {m : Move κ} (h : p.Changes m p') (he : p.state.Extends p'.state) {id : String}
    (hd : ∀ id client, m ≠ .invalidateClient id client) (hc : p.Caches id client)
    (hl : ¬ p'.Caches id client) :
    m = .invalidate id ∨ ∃ i context failure, m = .advance i ∧ context.id = id ∧
      p.Failed i context client failure ∧ p'.results[i]? = some (some (.error failure)) := by
  have kept : p'.state.registry.generation id ≠ p.state.registry.generation id :=
    fun hg => hl (hc.of_generation_eq he hg)
  cases h with
  | still => exact absurd hc hl
  | ticked => exact absurd hc hl
  | replaced => exact absurd rfl (hd _ _)
  | abandoned _ _ hg => exact absurd (congrFun hg id) kept
  | invalidated other =>
    simp only [State.registry_evict, Registry.generation_evict] at kept
    by_cases hid : id = other
    · exact .inl (hid ▸ rfl)
    · simp [hid] at kept
  | @advanced i t next ht h =>
    rcases h.2.2.generation_cases with hg | ⟨context, c, failure, hst, hf, hr, hst', hs'⟩
    · exact absurd (congrFun hg id) kept
    · simp only [hs', State.registry_evict, Registry.generation_evict] at kept
      by_cases hid : id = context.id
      · subst hid
        rw [Caches, hr] at hc
        cases hc
        refine .inr ⟨i, context, failure, rfl, rfl, failed_iff.mpr ⟨t, ht, hst, hf⟩, ?_⟩
        have hi : i < p.tasks.length := (List.getElem?_eq_some_iff.mp ht).1
        simp [results, hi, Task.result?, hst']
      · simp [hid] at kept

theorem Changes.keeps {i : Nat} (h : p.Changes (.advance i) p') (he : p.state.Extends p'.state)
    {context : ClusterContext} {failure : Failure} (hf : p.Failed i context client failure) {other : κ}
    (ho : other ≠ client) {id : String} (hc : p.Caches id other) : p'.Caches id other := by
  by_contra hl
  rcases h.leaves he (fun _ _ hm => by cases hm) hc hl with hm | ⟨j, context', failure', hm, _, hf', _⟩
  · cases hm
  · cases hm
    have := hf.symm.trans hf'
    simp only [Option.some.injEq, Prod.mk.injEq] at this
    exact ho this.2.1.symm

/-! ## Tasks have done what they tell of -/

theorem backed_kept : Kept fun i (t : Task σ κ) s => t.ticket = i ∧ t.stage.Backed i s.journal where
  grows h he := ⟨h.1, h.2.mono he⟩
  turns := by
    rintro i t s next ⟨rfl, hb⟩ hn _
    exact ⟨hn.1, hn.2.2.backed hb⟩

theorem backed_ofJobs (jobs : List Job) (s : State σ κ) :
    (ofJobs jobs s).Each fun i t s => t.ticket = i ∧ t.stage.Backed i s.journal := by
  intro i t ht
  obtain ⟨job, -, rfl⟩ := start_of_ofJobs ht
  exact ⟨rfl, trivial⟩

variable [DecidableEq κ] (g : Settings) (f : Fleet σ κ)

theorem step_of_failed {i : Nat} {context : ClusterContext} {failure : Failure}
    (h : p.Failed i context client failure) :
    (p.step g f (.advance i)).state = (p.state.invalidateClient context.id client).2 := by
  obtain ⟨t, ht, hst, hf⟩ := failed_iff.mp h
  simp only [step, ht, Task.advance, hst, Task.answer, hf, if_true]

theorem Evicts.caches_retired {m : Move κ} {contexts : Contexts} (h : p.Evicts m client)
    (hh : Registry.History (.blank contexts) p.state.journal p.state.registry) :
    (∃ id, p.Caches id client) ∧ (p.step g f m).Retired client := by
  obtain ⟨i, context, failure, rfl, hf, hi⟩ := h
  have hstep := step_of_failed g f hf
  rw [State.invalidateClient_eq] at hi hstep
  split at hi
  · next hc =>
    rw [if_pos hc] at hstep
    refine ⟨⟨context.id, hc.2⟩, p.state.registry.current context.id, ?_, ?_⟩
    · rw [hstep]
      exact List.mem_cons_of_mem _ ((hh.mem_connected_iff _ _).mpr hc.2)
    · rw [hstep, State.registry_evict, Registry.generation_evict]
      simp [Registry.current]
  · cases hi

theorem work_of_failed {jobs : List Job} {s : State σ κ} {moves : List (Move κ)} {n i : Nat}
    {context : ClusterContext} {failure : Failure}
    (h : ((ofJobs jobs s).after g f moves n).Failed i context client failure) :
    ∃ e ∈ ((ofJobs jobs s).after g f moves n).state.journal, e.IsWork i context client := by
  have hb := (backed_ofJobs jobs s).run backed_kept (.ofJobs jobs s) g f (moves.take n)
  obtain ⟨t, ht, hst, hf⟩ := failed_iff.mp h
  have hw := (hb i t ht).2
  rw [hst] at hw
  exact hw hf

/-! ## Precise eviction -/

/-- From the start on, if no client is built twice and nobody else gives up clients by name, a cached client
leaves the cache only where its context is invalidated or a request that it served ends with a failed
connection. One such request at most drops it, it never comes back, and no other client goes with it. -/
theorem precise_eviction {first : ClusterContext} {named : List ClusterContext} {clock : Instant} {world : σ}
    {s : State σ κ} (h : State.start? f first named clock world = some (.ok s)) (jobs : List Job)
    (moves : List (Move κ)) (hd : ∀ id client, .invalidateClient id client ∉ moves)
    (hfresh : (Journal.clients ((ofJobs jobs s).run g f moves).state.journal).Nodup) (client : κ) :
    let p := (ofJobs jobs s).after g f moves
    (∀ n m id, moves[n]? = some m → (p n).Caches id client → ¬ (p (n + 1)).Caches id client →
      m = .invalidate id ∨ ∃ i context failure, m = .advance i ∧ context.id = id ∧
        (p n).Failed i context client failure ∧ (∃ e ∈ (p n).state.journal, e.IsWork i context client) ∧
        (p (n + 1)).results[i]? = some (some (.error failure))) ∧
    (∀ n n' m m', moves[n]? = some m → moves[n']? = some m' → (p n).Evicts m client →
      (p n').Evicts m' client → n = n') ∧
    (∀ n₁ n₂ n₃ id id', n₁ ≤ n₂ → n₂ ≤ n₃ → (p n₁).Caches id client → ¬ (p n₂).Caches id client →
      ¬ (p n₃).Caches id' client) ∧
    (∀ n i context failure other id, moves[n]? = some (.advance i) → (p n).Failed i context client failure →
      other ≠ client → (p n).Caches id other → (p (n + 1)).Caches id other) := by
  intro p
  have ho : (ofJobs jobs s).Orderly := .ofJobs jobs s
  have hhistory : ∀ n, Registry.History (.blank s.registry.contexts) (p n).state.journal (p n).state.registry :=
    fun n => (history_of_start? g f h jobs (moves.take n)).2
  have hunique : ∀ n, (Journal.clients (p n).state.journal).Nodup :=
    fun n => (ho.extends_run g f moves n).clients_nodup hfresh
  have hchanges : ∀ {n m}, moves[n]? = some m → (p n).Changes m (p (n + 1)) := by
    intro n m hm
    simp only [p, after_succ g f _ moves hm]
    exact step_changes g f _ m
  have hextends : ∀ {n m}, n ≤ m → (p n).state.Extends (p m).state := ho.extends_after g f moves
  -- whoever is retired once is cached nowhere later
  have never : ∀ {n n' id}, (p n).Retired client → n ≤ n' → ¬ (p n').Caches id client :=
    fun hr hn => (hr.later (hextends hn)).not_caches (hhistory _) (hunique _) _
  have apart : ∀ {n n' m m'}, moves[n]? = some m → (p n).Evicts m client → (p n').Evicts m' client →
      ¬ n < n' := by
    intro n n' m m' hm he he' hn
    have hr := (he.caches_retired g f (hhistory n)).2
    rw [← after_succ g f _ moves hm] at hr
    obtain ⟨⟨id, hc⟩, _⟩ := he'.caches_retired g f (hhistory n')
    exact never hr hn hc
  refine ⟨?_, ?_, ?_, ?_⟩
  · intro n m id hm hc hl
    have hnot : ∀ id client, m ≠ .invalidateClient id client :=
      fun id client he => hd id client (he ▸ List.mem_of_getElem? hm)
    rcases (hchanges hm).leaves (hextends (Nat.le_succ n)) hnot hc hl with
      hi | ⟨i, context, failure, hi, hid, hf, hres⟩
    · exact .inl hi
    · exact .inr ⟨i, context, failure, hi, hid, hf, work_of_failed g f hf, hres⟩
  · intro n n' m m' hm hm' he he'
    exact Nat.le_antisymm (Nat.not_lt.mp (apart hm' he' he)) (Nat.not_lt.mp (apart hm he he'))
  · intro n₁ n₂ n₃ id id' h₁₂ h₂₃ hc hl
    rcases hc.later (hhistory n₁) (hextends h₁₂) with hc' | hr
    · exact absurd hc' hl
    · exact never hr h₂₃
  · intro n i context failure other id hm hf hne hc
    exact (hchanges hm).keeps (hextends (Nat.le_succ n)) hf hne hc

theorem precise_eviction_of_late :
    let node : ResourceKind := ⟨"node", [], ⟨"", "v1", "Node", "nodes"⟩, .cluster, .uniform .reader, "", ""⟩
    let g : Settings := ⟨⟨[node], by cbv⟩, ⟨[]⟩, none⟩
    let f := Simulated.fleet .echo
    let first : ClusterContext := ⟨"default", .inCluster⟩
    let reset : Failure := .connection "reset"
    let world : Simulated.World := { Simulated.World.empty with callFailures := [reset, reset] }
    let ask : Job := .execute ⟨"ann", .reader⟩ { verb := .list, kind := "node" }
    let moves : List (Move Simulated.Client) := [.advance 0, .advance 1, .advance 0, .advance 1,
      .advance 0, .advance 1, .advance 0, .advance 2, .advance 2, .advance 1]
    let old : Simulated.Client := ⟨"default", 1⟩
    let new : Simulated.Client := ⟨"default", 2⟩
    let s : State Simulated.World Simulated.Client :=
      ⟨.start ⟨first, [], by decide⟩ old, { world with built := 1 }, 0, [.connected ⟨"default", 0⟩ old,
        .connecting ⟨"default", 0⟩]⟩
    let p := (ofJobs [ask, ask, ask] s).after g f moves
    State.start? f first [] 0 world = some (.ok s) ∧ (p 9).Failed 1 first old reset ∧
      (p 9).Caches "default" new ∧ (p 10).Caches "default" new := by
  intro node g f first reset world ask moves old new s p
  have hs : State.start? f first [] 0 world = some (.ok s) := rfl
  have hfailed : (p 9).Failed 1 first old reset := by decide +kernel
  have hcached : (p 9).Caches "default" new := by decide +kernel
  have hfresh : (Journal.clients ((ofJobs [ask, ask, ask] s).run g f moves).state.journal).Nodup := by
    decide +kernel
  refine ⟨hs, hfailed, hcached, ?_⟩
  exact (precise_eviction g f hs [ask, ask, ask] moves (by simp [moves]) hfresh old).2.2.2 9 1 first reset new
    "default" rfl hfailed (by decide) hcached

end Pool

end ClusterGateway
