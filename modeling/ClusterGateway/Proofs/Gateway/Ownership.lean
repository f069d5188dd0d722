import ClusterGateway.Proofs.Gateway.Construction

/-!
# Requests keep to their own cluster

From its arrival on a task has the context that its job names, and it draws its client from a slot of
this context. What a slot holds comes from a call for a client of its own context. So whatever else
goes on, a request works through a client that was built for the context it names.
-/

namespace ClusterGateway

variable {σ κ : Type}

/-! ## The context of a task -/

def Job.named? : Job → Option String
  | .resolve context => context
  | .execute _ request => request.context

namespace Stage

/-- The task asks for its client, or has it, from a slot of its context that is no older than this. -/
def Draws (st : Stage σ κ) (since : String → Nat) (r : Registry κ) : Prop :=
  ∀ context, st.context? = some context →
    ∃ slot : SlotId, slot.context = context.id ∧ since context.id ≤ slot.generation ∧ st.Served slot r

theorem Served.slot_eq {st : Stage σ κ} {slot slot' : SlotId} {r : Registry κ} (h : st.Served slot r)
    (hs : st.slot? = some slot') : slot = slot' := by
  rcases h with h | ⟨-, h, -⟩
  · rw [h] at hs
    exact Option.some.inj hs
  · rw [h] at hs
    cases hs

theorem Draws.mono {st : Stage σ κ} {since : String → Nat} {s s' : State σ κ} (h : st.Draws since s.registry)
    (he : s.Extends s') : st.Draws since s'.registry := by
  intro context hc
  obtain ⟨slot, hslot, hsince, hserved⟩ := h context hc
  exact ⟨slot, hslot, hsince, hserved.mono he⟩

end Stage

namespace Turn

variable {ticket : Nat} {s s' : State σ κ} {st st' : Stage σ κ}

theorem context?_cases (h : Turn ticket s st st' s') :
    st = .arrived ∨ st'.context? = st.context? ∨ st'.context? = none := by
  cases h with
  | denied => exact .inl rfl
  | selected => exact .inl rfl
  | begunAndSettled world outcome => cases outcome <;> simp [Stage.built, Stage.context?]
  | settled world outcome => cases outcome <;> simp [Stage.built, Stage.context?]
  | ended outcome => cases outcome <;> simp [Except.map, Stage.context?]
  | _ => simp [Stage.context?]

theorem draws {since : String → Nat} (h : Turn ticket s st st' s') (he : s.Extends s')
    (hg : ∀ id, since id ≤ s.registry.generation id) (hd : st.Draws since s.registry) :
    st'.Draws since s'.registry := by
  intro context hc
  rcases h.context?_cases with rfl | hsame | hnone
  · cases h with
    | denied => cases hc
    | selected errand hmem =>
      cases hc
      exact ⟨s.registry.current context.id, rfl, hg context.id, .inl rfl⟩
  · rw [hsame] at hc
    obtain ⟨slot, hslot, hsince, hserved⟩ := hd context hc
    exact ⟨slot, hslot, hsince, h.served he hserved⟩
  · rw [hnone] at hc
    cases hc

end Turn

theorem Contexts.eq_of_id {c : Contexts} {x y : ClusterContext} (hx : x ∈ c.all) (hy : y ∈ c.all) (h : x.id = y.id) :
    x = y :=
  List.inj_on_of_nodup_map c.distinct hx hy h

theorem Contexts.find?_eq_some_iff {c : Contexts} {id : String} {x : ClusterContext} :
    c.find? id = some x ↔ x ∈ c.all ∧ x.id = id := by
  constructor
  · exact mem_of_find?
  · rintro ⟨hx, rfl⟩
    obtain ⟨y, hy, hid⟩ := find?_of_mem_ids (List.mem_map_of_mem hx)
    rw [hy, eq_of_id (mem_of_find? hy).1 hx hid]

/-- What a context stands for in a request: the one of the start under the id that the request names,
without the blanks around it, or the first one where it names none. -/
theorem Contexts.select_eq_ok_iff {c : Contexts} {id : Option String} {x : ClusterContext} :
    c.select id = .ok x ↔ x ∈ c.all ∧ x.id = (Text.nonBlank? id).getD c.first.id := by
  rw [← find?_eq_some_iff, ← named?]
  unfold select
  cases c.find? (c.named? id) <;> simp

namespace Task

variable {g : Settings} {t : Task σ κ} {s : State σ κ}

theorem select_of_lookUp {errand : Errand} {id : Option String} {context : ClusterContext}
    (h : (t.lookUp s errand id).stage.context? = some context) : s.registry.contexts.select id = .ok context := by
  unfold lookUp at h
  split at h
  · cases h
  · next x hx =>
    cases h
    exact hx

theorem select_of_arrive {context : ClusterContext} (h : (t.arrive g s).stage.context? = some context) :
    s.registry.contexts.select t.job.named? = .ok context := by
  unfold arrive at h
  split at h
  · next hjob =>
    rw [hjob]
    exact select_of_lookUp h
  · next hjob =>
    rw [hjob]
    split at h
    · cases h
    · exact select_of_lookUp h

theorem context?_abandon (t : Task σ κ) (s : State σ κ) :
    (t.abandon s).1.stage.context? = t.stage.context? ∨ (t.abandon s).1.stage.context? = none := by
  unfold abandon
  split
  · exact .inr rfl
  · exact .inr rfl
  · next hst => exact .inl (by rw [hst]; rfl)
  · exact .inl rfl

theorem job_abandon (t : Task σ κ) (s : State σ κ) : (t.abandon s).1.job = t.job := by
  unfold abandon
  split <;> rfl

end Task

namespace State

section
variable {f : Fleet σ κ} {first : ClusterContext} {named : List ClusterContext} {clock : Instant} {world : σ}
  {s : State σ κ} (h : State.start? f first named clock world = some (.ok s))
include h

theorem registry_of_start? : ∃ contexts client w, s.registry = .start contexts client ∧ contexts.first = first ∧
    (f.connect first world).1.await? (f.connect first world).2 = some (.ok client, w) := by
  unfold State.start? at h
  simp only at h
  split at h
  · cases h
  · cases h
  · next client w hw =>
    split at h
    · cases h
    · next contexts hcontexts =>
      cases h
      exact ⟨contexts, client, w, rfl, (Contexts.of_ofList hcontexts).1, hw⟩

theorem ready_of_start? {slot : SlotId} {client : κ} (hr : s.registry.slots slot = .ready client) :
    slot = ⟨first.id, 0⟩ ∧
      ∃ w, (f.connect first world).1.await? (f.connect first world).2 = some (.ok client, w) := by
  obtain ⟨contexts, c, w, hs, rfl, hw⟩ := registry_of_start? h
  rw [hs, Registry.start] at hr
  simp only at hr
  split at hr
  · next hslot =>
    cases hr
    exact ⟨hslot, w, hw⟩
  · cases hr

end

end State

namespace Pool

variable [DecidableEq κ] {g : Settings} {f : Fleet σ κ} {moves : List (Move κ)}

theorem contexts_after (g : Settings) (f : Fleet σ κ) (moves : List (Move κ)) (jobs : List Job) (s : State σ κ) (n : Nat) :
    ((ofJobs jobs s).after g f moves n).state.registry.contexts = s.registry.contexts :=
  ((Orderly.ofJobs jobs s).extends_after g f moves (Nat.zero_le n)).contexts_eq

theorem select_of_context? (jobs : List Job) (s : State σ κ) (n : Nat) {i : Nat} {t : Task σ κ} {context : ClusterContext}
    (ht : ((ofJobs jobs s).after g f moves n).tasks[i]? = some t) (hc : t.stage.context? = some context) :
    s.registry.contexts.select t.job.named? = .ok context := by
  refine after_induction (P := fun _ t => ∀ context, t.stage.context? = some context →
    s.registry.contexts.select t.job.named? = .ok context) ?_ (fun _ _ h => h) ?_ ?_ n ht context hc
  · intro t ht context hc
    obtain ⟨job, -, rfl⟩ := start_of_ofJobs ht
    cases hc
  · intro n t hm ht ih context hc
    by_cases hst : t.stage = .arrived
    · simp only [Task.advance, hst] at hc ⊢
      rw [(t.arrive_turns g _ hst).2.1, ← contexts_after g f moves jobs s n]
      exact Task.select_of_arrive hc
    · rcases t.advance_turns g f ((ofJobs jobs s).after g f moves n).state with hturn | ⟨hsame, -⟩
      · rw [hturn.2.1]
        rcases hturn.2.2.context?_cases with h | h | h
        · exact absurd h hst
        · exact ih context (h ▸ hc)
        · rw [h] at hc
          cases hc
      · rw [hsame] at hc ⊢
        exact ih context hc
  · intro n t ih context hc
    rw [t.job_abandon]
    rcases t.context?_abandon ((ofJobs jobs s).after g f moves n).state with h | h
    · exact ih context (h ▸ hc)
    · rw [h] at hc
      cases hc

omit [DecidableEq κ] in
theorem draws_kept (since : String → Nat) (I : Nat → Prop) : Kept fun i (t : Task σ κ) s =>
    (∀ id, since id ≤ s.registry.generation id) ∧ (I i → t.stage.Draws since s.registry) where
  grows h he := ⟨fun id => Nat.le_trans (h.1 id) (he.generation_le id), fun hi => (h.2 hi).mono he⟩
  turns h hn he := ⟨fun id => Nat.le_trans (h.1 id) (he.generation_le id), fun hi => hn.2.2.draws he h.1 (h.2 hi)⟩

theorem draws_after (jobs : List Job) (s : State σ κ) {r k i : Nat} (hrk : r ≤ k)
    (harrived : ∀ t, ((ofJobs jobs s).after g f moves r).tasks[i]? = some t → t.stage = .arrived) {u : Task σ κ}
    (hu : ((ofJobs jobs s).after g f moves k).tasks[i]? = some u) :
    u.stage.Draws ((ofJobs jobs s).after g f moves r).state.registry.generation
      ((ofJobs jobs s).after g f moves k).state.registry := by
  have heach : ((ofJobs jobs s).after g f moves r).Each fun j (t : Task σ κ) s' =>
      (∀ id, ((ofJobs jobs s).after g f moves r).state.registry.generation id ≤ s'.registry.generation id) ∧
        (j = i → t.stage.Draws ((ofJobs jobs s).after g f moves r).state.registry.generation s'.registry) := by
    intro j t ht
    refine ⟨fun id => Nat.le_refl _, ?_⟩
    rintro rfl context hc
    rw [harrived t ht] at hc
    cases hc
  have hrun := heach.run (draws_kept _ (· = i)) ((Orderly.ofJobs jobs s).after g f moves r) g f ((moves.take k).drop r)
  rw [← after_of_le g f _ moves hrk] at hrun
  exact (hrun i u hu).2 rfl

theorem arrived_of_ofJobs (jobs : List Job) (s : State σ κ) {i : Nat} {t : Task σ κ}
    (ht : ((ofJobs jobs s).after g f moves 0).tasks[i]? = some t) : t.stage = .arrived := by
  obtain ⟨job, -, rfl⟩ := start_of_ofJobs ht
  rfl

theorem owns_of_slot? (jobs : List Job) (s : State σ κ) (n : Nat) {i : Nat} {t : Task σ κ} {context : ClusterContext}
    {slot : SlotId} (ht : ((ofJobs jobs s).after g f moves n).tasks[i]? = some t) (hs : t.stage.slot? = some slot)
    (hc : t.stage.context? = some context) : context ∈ s.registry.contexts.all ∧ slot.context = context.id := by
  obtain ⟨slot', hslot', -, hserved⟩ :=
    draws_after jobs s (Nat.zero_le n) (fun _ => arrived_of_ofJobs jobs s) ht context hc
  rw [hserved.slot_eq hs] at hslot'
  exact ⟨(Contexts.mem_of_select (select_of_context? jobs s n ht hc)).1, hslot'⟩

theorem Connects.owns {jobs : List Job} {s : State σ κ} {i b : Nat} {context : ClusterContext} {slot : SlotId}
    (h : (ofJobs jobs s).Connects g f moves i b context slot) :
    context ∈ s.registry.contexts.all ∧ slot.context = context.id := by
  obtain ⟨t, errand, ht, hst⟩ := h.stage
  exact owns_of_slot? jobs s b ht (by rw [hst]; rfl) (by rw [hst]; rfl)

section
variable (g f moves)

/-- A call for a client of the context has come to this client, at the start or before move `n`. -/
def Supplies (p : Pool σ κ) (first : ClusterContext) (world : σ) (n : Nat) (context : ClusterContext) (client : κ) :
    Prop :=
  (context = first ∧ ∃ w, (f.connect first world).1.await? (f.connect first world).2 = some (.ok client, w)) ∨
    ∃ i b slot m, m < n ∧ p.Constructs g f moves i b context slot m (.ok client)

end

theorem supplies_of_client? {first : ClusterContext} {named : List ClusterContext} {clock : Instant} {world : σ}
    {s : State σ κ} (h : State.start? f first named clock world = some (.ok s)) (jobs : List Job) {n i : Nat}
    {t : Task σ κ} {context : ClusterContext} {client : κ}
    (ht : ((ofJobs jobs s).after g f moves n).tasks[i]? = some t) (hc : t.stage.context? = some context)
    (hclient : t.stage.client? = some client) :
    (ofJobs jobs s).Supplies g f moves first world n context client := by
  have hmem := (Contexts.mem_of_select (select_of_context? jobs s n ht hc)).1
  obtain ⟨slot, hslot, -, hserved⟩ :=
    draws_after jobs s (Nat.zero_le n) (fun _ => arrived_of_ofJobs jobs s) ht context hc
  have hready := hserved.ready hclient
  rcases origin_of_ready jobs s n hready with hstart | ⟨j, b, context', m, hm, hcons⟩
  · obtain ⟨rfl, hw⟩ := State.ready_of_start? h hstart
    have hfirst : s.registry.contexts.first = first := (State.contexts_of_start? h).1
    refine .inl ⟨?_, hw⟩
    rw [← hfirst] at hslot ⊢
    exact Contexts.eq_of_id hmem (List.mem_cons_self ..) hslot.symm
  · obtain ⟨hmem', hslot'⟩ := hcons.connects.owns
    have hsame : context' = context := Contexts.eq_of_id hmem' hmem (hslot'.symm.trans hslot)
    exact .inr ⟨j, b, slot, m, hm, hsame ▸ hcons⟩

theorem request_of_notes (jobs : List Job) (s : State σ κ) {n : Nat} {e : Event κ} (h : (ofJobs jobs s).Notes g f moves n e)
    (he : e.isOperation = true) : ∃ (i : Nat) (t : Task σ κ) (pr : Principal) (q : Request) (context : ClusterContext)
      (client : κ),
      ((ofJobs jobs s).after g f moves n).tasks[i]? = some t ∧ jobs[t.ticket]? = some (.execute pr q) ∧
      s.registry.contexts.select q.context = .ok context ∧ t.stage.context? = some context ∧
      t.stage.client? = some client ∧ e.IsWork t.ticket context client := by
  rcases stemsFrom_of_notes h with ⟨i, t, ht, hstems⟩ | ⟨slot, rfl⟩
  · obtain ⟨kind, q, context, client, hst, hw⟩ := hstems.operation he
    have hserves := (accounts_after g f jobs s moves n ht).serves
    obtain ⟨pr, hjob, -⟩ := hserves.admitted kind q (by rw [hst]; rfl)
    have hc : t.stage.context? = some context := by rw [hst]; rfl
    have hselect := select_of_context? jobs s n ht hc
    rw [hjob] at hselect
    exact ⟨i, t, pr, q, context, client, ht, hjob ▸ hserves.job, hselect, hc, by rw [hst]; rfl, hw⟩
  · cases he

/-! ## Own clusters -/

def IsNamedBy (first : ClusterContext) (named : List ClusterContext) (q : Request) (context : ClusterContext) : Prop :=
  context ∈ first :: named ∧ context.id = (Text.nonBlank? q.context).getD first.id

section
variable (g f)

/-- From the start on, in every interleaving, a call goes to a client that was built for the context which its
request names, and the describe tool is given this very context. The contexts stay what they were. -/
theorem requests_keep_to_their_cluster {first : ClusterContext} {named : List ClusterContext} {clock : Instant}
    {world : σ} {s : State σ κ} (h : State.start? f first named clock world = some (.ok s)) (jobs : List Job)
    (moves : List (Move κ)) (n : Nat) :
    let p := ofJobs jobs s
    let r := (p.after g f moves n).state.registry
    (∀ ticket client call, p.Notes g f moves n (.called ticket client call) → ∃ pr q context,
      jobs[ticket]? = some (.execute pr q) ∧ IsNamedBy first named q context ∧
      p.Supplies g f moves first world n context client) ∧
    (∀ ticket context kind ns name, p.Notes g f moves n (.described ticket context kind ns name) → ∃ pr q,
      jobs[ticket]? = some (.execute pr q) ∧ IsNamedBy first named q context) ∧
    (∀ id, (r.contexts.find? id).isSome = true ↔ id ∈ (first :: named).map (·.id)) ∧
    (∀ id context, r.contexts.find? id = some context → context.id = id ∧ context ∈ first :: named) ∧
    r.summaries = (first :: named).map (·.summary) := by
  intro p r
  obtain ⟨hfirst, hnamed⟩ := State.contexts_of_start? h
  have hcontexts : r.contexts = s.registry.contexts := contexts_after g f moves jobs s n
  have hall : s.registry.contexts.all = first :: named := by rw [Contexts.all, hfirst, hnamed]
  have hnames : ∀ {q : Request} {context : ClusterContext}, s.registry.contexts.select q.context = .ok context →
      IsNamedBy first named q context := by
    intro q context hselect
    rw [Contexts.select_eq_ok_iff, hall, hfirst] at hselect
    exact hselect
  refine ⟨?_, ?_, ?_, ?_, ?_⟩
  · intro ticket client call hn
    obtain ⟨i, t, pr, q, context, c, ht, hjob, hselect, hc, hclient, ⟨_, he⟩ | ⟨_, _, _, he⟩⟩ :=
      request_of_notes jobs s hn rfl
    · cases he
      exact ⟨pr, q, context, hjob, hnames hselect, supplies_of_client? h jobs ht hc hclient⟩
    · cases he
  · intro ticket context kind ns name hn
    obtain ⟨i, t, pr, q, context', c, ht, hjob, hselect, hc, hclient, ⟨_, he⟩ | ⟨_, _, _, he⟩⟩ :=
      request_of_notes jobs s hn rfl
    · cases he
    · cases he
      exact ⟨pr, q, hjob, hnames hselect⟩
  · intro id
    rw [hcontexts, Option.isSome_iff_exists, ← hall]
    simp only [Contexts.find?_eq_some_iff, List.mem_map]
  · intro id context hfind
    rw [hcontexts, Contexts.find?_eq_some_iff, hall] at hfind
    exact hfind.symm
  · rw [Registry.summaries, hcontexts, hall]

theorem requests_keep_to_their_cluster_of_blanks :
    let node : ResourceKind := ⟨"node", [], ⟨"", "v1", "Node", "nodes"⟩, .cluster, .uniform .reader, "", ""⟩
    let g : Settings := ⟨⟨[node], by cbv⟩, ⟨[]⟩, none⟩
    let f := Simulated.fleet .echo
    let first : ClusterContext := ⟨"default", .inCluster⟩
    let staging : ClusterContext := ⟨"staging", .kubeconfig "/etc/staging" none⟩
    let old : Simulated.Client := ⟨"default", 1⟩
    let s : State Simulated.World Simulated.Client :=
      ⟨.start ⟨first, [staging], by decide⟩ old, { Simulated.World.empty with built := 1 }, 0,
        [.connected ⟨"default", 0⟩ old, .connecting ⟨"default", 0⟩]⟩
    let q : Request := { verb := .list, kind := "node", context := some " staging\t" }
    let jobs : List Job := [.execute ⟨"ann", .reader⟩ q,
      .execute ⟨"ann", .reader⟩ { verb := .describe, kind := "node", name := some "n1" }]
    let moves : List (Move Simulated.Client) :=
      [.advance 0, .advance 1, .advance 0, .advance 1, .advance 0, .advance 1]
    State.start? f first [staging] 0 .empty = some (.ok s) ∧
      (ofJobs jobs s).Notes g f moves 4 (.called 0 ⟨"staging", 2⟩ ⟨node.api, none, .list⟩) ∧
      ∃ context, IsNamedBy first [staging] q context ∧
        (ofJobs jobs s).Supplies g f moves first .empty 4 context ⟨"staging", 2⟩ := by
  intro node g f first staging old s q jobs moves
  have hs : State.start? f first [staging] 0 .empty = some (.ok s) := rfl
  have hnoted : (ofJobs jobs s).Notes g f moves 4 (.called 0 ⟨"staging", 2⟩ ⟨node.api, none, .list⟩) := by
    refine ⟨[.called 0 ⟨"staging", 2⟩ ⟨node.api, none, .list⟩], ?_, List.mem_singleton_self _⟩
    decide +kernel
  refine ⟨hs, hnoted, ?_⟩
  obtain ⟨pr, q', context, hjob, hnamed, hsupplies⟩ :=
    (requests_keep_to_their_cluster g f hs jobs moves 4).1 0 _ _ hnoted
  obtain rfl : q = q' := (Job.execute.inj (Option.some.inj hjob)).2
  exact ⟨context, hnamed, hsupplies⟩

end

end Pool

end ClusterGateway
