import ClusterGateway.Proofs.Gateway.Twin

/-!
# Requests for different contexts

A request that runs among requests for other contexts takes the steps that it takes alone. So, unless one of
them is cancelled, each comes to the same envelope, and leaves the part of its context behind as it does
alone.
-/

namespace ClusterGateway

variable {σ κ τ : Type}

structure Asking where
  principal : Principal
  request : Request
  context : ClusterContext

def Asking.job (a : Asking) : Job := .execute a.principal a.request

/-! ## One request -/

/-- The time limit counts from the arrival, so whoever arrives later has as long to wait. -/
theorem Gateway.ahead_deadlineOf (g : Settings) (q : Request) {s s' : State σ κ} (hclock : s'.clock ≤ s.clock) :
    Ahead (deadlineOf g q s) (deadlineOf g q s') s.clock s'.clock where
  le := hclock
  slack wait hall := by
    unfold deadlineOf at hall ⊢
    cases hd : q.deadline with
    | some d =>
      simp only [hd, Option.some_or, Option.all_some, decide_eq_true_eq] at hall ⊢
      exact Nat.le_trans (Nat.add_le_add_right hclock wait) hall
    | none =>
      simp only [hd, Option.none_or, Option.all_map] at hall ⊢
      cases htimeout : g.timeout with
      | none => rfl
      | some timeout =>
        simp only [htimeout, Option.all_some, decide_eq_true_eq] at hall ⊢
        exact Nat.add_le_add_left (Nat.le_of_add_le_add_left hall) _

/-- A task among others is the twin of one for the same request alone, which began no later. -/
structure Task.Follows (view : String → σ → τ) (owner : κ → String) (a : Asking)
    (next next' : Task σ κ × State σ κ) : Prop where
  job : next.1.job = a.job
  job' : next'.1.job = a.job
  twins : Twins view owner a.context next next'
  contexts : next.2.registry.contexts = next'.2.registry.contexts
  select : next'.2.registry.contexts.select a.request.context = .ok a.context

namespace Task.Follows

variable {g : Settings} {view : String → σ → τ} {owner : κ → String} {a : Asking} {t t' : Task σ κ}
  {s s' : State σ κ}

theorem isDue (h : Follows view owner a (t, s) (t', s')) (hdue : t'.due?.isSome = true) : t'.isDue s' = false := by
  rw [h.twins.due?_isSome_eq] at hdue
  have hearly : t'.deadline.all (s'.clock < ·) = true := h.twins.paced.early hdue
  unfold Task.isDue
  cases hd : t'.deadline with
  | none => rfl
  | some d => simpa [hd] using hearly

theorem among (h : Follows view owner a (t, s) (t', s')) {s₁ : State σ κ}
    (hpart : s.AgreeAt view owner a.context.id s₁) (hcontexts : s₁.registry.contexts = s.registry.contexts)
    (hclock : s.clock ≤ s₁.clock) : Follows view owner a (t, s₁) (t', s') where
  job := h.job
  job' := h.job'
  twins :=
    { stage := h.twins.stage
      part := h.twins.part.trans hpart
      owned := h.twins.owned
      paced := ⟨h.twins.paced.clock.mono hclock, h.twins.paced.due, h.twins.paced.early⟩ }
  contexts := hcontexts.trans h.contexts
  select := h.select

theorem start (a : Asking) (i : Nat) {s : State σ κ}
    (hselect : s.registry.contexts.select a.request.context = .ok a.context) (howned : s.Owned owner a.context.id) :
    Follows view owner a (Task.start i a.job, s) (Task.start 0 a.job, s) where
  job := rfl
  job' := rfl
  twins := ⟨.arrived, .refl s, howned, .of_due? ⟨Nat.le_refl _, fun _ _ => rfl⟩ rfl⟩
  contexts := rfl
  select := hselect

theorem arrive (g : Settings) (h : Follows view owner a (t, s) (t', s')) :
    Follows view owner a (t.arrive g s, s) (t'.arrive g s', s') := by
  obtain ⟨hjob, hjob', ⟨hstage, hpart, howned, hpaced⟩, hcontexts, hselect⟩ := h
  have hclock : Ahead t.deadline t'.deadline s.clock s'.clock := hpaced.clock
  simp only at hjob hjob' hcontexts hselect
  unfold Task.arrive
  rw [hjob, hjob']
  simp only [Asking.job]
  cases g.catalog.authorize a.principal a.request.kind a.request.verb with
  | error failure =>
    exact ⟨hjob, hjob', ⟨.finished _, hpart, howned, .of_due? hclock rfl⟩, hcontexts, hselect⟩
  | ok kind =>
    have hcurrent : s.registry.current a.context.id = s'.registry.current a.context.id := hpart.current
    have hlimits := Gateway.ahead_deadlineOf g a.request hclock.le
    simp only [lookUp, hcontexts, hselect, hcurrent]
    exact ⟨rfl, rfl, ⟨.resolving _ rfl, hpart, howned, .of_due? hlimits rfl⟩, hcontexts, hselect⟩

variable [DecidableEq κ] {f : Fleet σ κ}

theorem advance (g : Settings) (hf : f.Separates view owner) (h : Follows view owner a (t, s) (t', s')) :
    (Follows view owner a (t.advance g f s) (t'.advance g f s') ∨ (t.advance g f s).1.Late) ∧
      s.Spares view owner a.context.id (t.advance g f s).2 := by
  by_cases harrived : t.stage = .arrived
  · have harrived' := h.twins.arrived_iff.mpr harrived
    simp only [Task.advance, harrived, harrived']
    exact ⟨.inl (h.arrive g), .refl s⟩
  · obtain ⟨htwins, hspares⟩ := advance_stepsAs hf g h.twins harrived h.contexts
    obtain ⟨hjob, -, hcontexts⟩ := t.fixed_advance g f s
    obtain ⟨hjob', -, hcontexts'⟩ := t'.fixed_advance g f s'
    refine ⟨htwins.imp_left fun htwins => ⟨hjob.trans h.job, hjob'.trans h.job', htwins, ?_, ?_⟩, hspares⟩
    · rw [hcontexts, hcontexts', h.contexts]
    · rw [hcontexts', h.select]

omit [DecidableEq κ] in
theorem atRest (h : Follows view owner a (t, s) (t', s')) (hrest : t.AtRest s) : t'.AtRest s' := by
  rw [Task.AtRest, h.twins.result?_eq, h.twins.isStuck_eq]
  exact hrest.imp_right (And.imp_right h.twins.paced.clock.eq_none)

end Task.Follows

/-! ## One request among others -/

/-- From the state `s₀` on the task has taken steps of the request alone, unless it has come too late. -/
def Task.RunsAs [DecidableEq κ] (g : Settings) (f : Fleet σ κ) (view : String → σ → τ) (owner : κ → String)
    (s₀ : State σ κ) (a : Asking) (t : Task σ κ) (s : State σ κ) : Prop :=
  t.Late ∨ ∃ t' s', Follows view owner a (t, s) (t', s') ∧ t'.finish g f s' = (Task.start 0 a.job).finish g f s₀

namespace Task.RunsAs

variable [DecidableEq κ] {g : Settings} {f : Fleet σ κ} {view : String → σ → τ} {owner : κ → String}
  {s₀ s s₁ : State σ κ} {a : Asking} {t : Task σ κ}

theorem among (h : t.RunsAs g f view owner s₀ a s) (hpart : s.AgreeAt view owner a.context.id s₁)
    (hcontexts : s₁.registry.contexts = s.registry.contexts) (hclock : s.clock ≤ s₁.clock) :
    t.RunsAs g f view owner s₀ a s₁ := by
  rcases h with hlate | ⟨t', s', hfollows, hfinish⟩
  · exact .inl hlate
  · exact .inr ⟨t', s', hfollows.among hpart hcontexts hclock, hfinish⟩

theorem advance (hf : f.Separates view owner) (h : t.RunsAs g f view owner s₀ a s) :
    (t.advance g f s).1.RunsAs g f view owner s₀ a (t.advance g f s).2 ∧
      s.Spares view owner a.context.id (t.advance g f s).2 := by
  rcases h with hlate | ⟨t', s', hfollows, hfinish⟩
  · rw [hlate.advance g f s]
    exact ⟨.inl hlate, .refl s⟩
  · obtain ⟨hnext, hspares⟩ := hfollows.advance g hf
    refine ⟨?_, hspares⟩
    rcases hnext with hnext | hlate
    · exact .inr ⟨_, _, hnext, (t'.finish_advance g f s' hfollows.isDue).symm.trans hfinish⟩
    · exact .inl hlate

theorem finish_eq (h : t.RunsAs g f view owner s₀ a s) (hrest : t.AtRest s) :
    ∃ s', (Task.start 0 a.job).finish g f s₀ = (t.result?, s') ∧ s'.AgreeAt view owner a.context.id s := by
  rcases h with hlate | ⟨t', s', hfollows, hfinish⟩
  · exact absurd hrest (hlate.not_atRest s)
  · refine ⟨s', ?_, hfollows.twins.part⟩
    rw [← hfinish, ← hfollows.twins.result?_eq]
    exact finish_of_atRest g f t' s' (hfollows.atRest hrest)

end Task.RunsAs

/-! ## All requests -/

def Pool.AtRest (p : Pool σ κ) : Prop :=
  ∀ t ∈ p.tasks, t.AtRest p.state

instance (p : Pool σ κ) : Decidable p.AtRest :=
  inferInstanceAs (Decidable (∀ t ∈ p.tasks, t.AtRest p.state))

structure Pool.Apart [DecidableEq κ] (g : Settings) (f : Fleet σ κ) (view : String → σ → τ) (owner : κ → String)
    (asks : List Asking) (s₀ : State σ κ) (p : Pool σ κ) : Prop where
  length : p.tasks.length = asks.length
  each (i : Nat) (t : Task σ κ) (a : Asking) :
    p.tasks[i]? = some t → asks[i]? = some a → t.RunsAs g f view owner s₀ a p.state
  others (id : String) : (∀ a ∈ asks, a.context.id ≠ id) → s₀.AgreeAt view owner id p.state

inductive Move.GoesOn : Move κ → Prop
  | advance (i : Nat) : GoesOn (.advance i)
  | tick (moment : Instant) : GoesOn (.tick moment)

instance : DecidablePred fun m : Move κ => m.GoesOn
  | .advance i => isTrue (.advance i)
  | .tick moment => isTrue (.tick moment)
  | .abandon _ | .invalidate _ | .invalidateClient _ _ => isFalse nofun

namespace Pool

variable [DecidableEq κ] {g : Settings} {f : Fleet σ κ} {view : String → σ → τ} {owner : κ → String}
  {asks : List Asking} {s₀ : State σ κ} {p : Pool σ κ}

namespace Apart

theorem ofJobs (g : Settings) (f : Fleet σ κ)
    (hselect : ∀ a ∈ asks, s₀.registry.contexts.select a.request.context = .ok a.context)
    (howned : ∀ id, s₀.Owned owner id) : (Pool.ofJobs (asks.map Asking.job) s₀).Apart g f view owner asks s₀ where
  length := by simp [Pool.ofJobs]
  each i t a ht ha := by
    obtain ⟨job, hjob, rfl⟩ := start_of_ofJobs ht
    rw [List.getElem?_map, ha] at hjob
    cases hjob
    have hmem := List.mem_of_getElem? ha
    exact .inr ⟨_, s₀, .start a i (hselect a hmem) (howned _), rfl⟩
  others id _ := .refl s₀

theorem advance (hf : f.Separates view owner) (hids : (asks.map (·.context.id)).Nodup)
    (h : p.Apart g f view owner asks s₀) (i : Nat) : (p.step g f (.advance i)).Apart g f view owner asks s₀ := by
  cases ht : p.tasks[i]? with
  | none =>
    simp only [Pool.step, ht]
    exact h
  | some t =>
    simp only [Pool.step, ht]
    have hi : i < asks.length := by
      rw [← h.length]
      exact (List.getElem?_eq_some_iff.mp ht).1
    have ha := List.getElem?_eq_getElem hi
    obtain ⟨hnext, hspares⟩ := (h.each i t asks[i] ht ha).advance hf
    obtain ⟨-, hclock, hcontexts⟩ := t.fixed_advance g f p.state
    refine ⟨by rw [List.length_set, h.length], ?_, ?_⟩
    · intro j u b hu hb
      rcases getElem?_set_cases hu with ⟨rfl, rfl⟩ | ⟨hij, hu⟩
      · cases ha.symm.trans hb
        exact hnext
      · -- the others have other contexts
        have hne : b.context.id ≠ asks[i].context.id := by
          intro hid
          have hsame : (asks.map (·.context.id))[i]? = (asks.map (·.context.id))[j]? := by
            rw [List.getElem?_map, List.getElem?_map, ha, hb, Option.map_some, Option.map_some, hid]
          exact hij ((List.getElem?_inj (by rwa [List.length_map]) hids).mp hsame)
        exact (h.each j u b hu hb).among (hspares _ hne) hcontexts hclock
    · intro id hid
      exact (h.others id hid).trans (hspares id (hid asks[i] (List.getElem_mem hi)).symm)

theorem tick (h : p.Apart g f view owner asks s₀) (moment : Instant) :
    (p.step g f (.tick moment)).Apart g f view owner asks s₀ where
  length := h.length
  each i t a ht ha := (h.each i t a ht ha).among ⟨.refl _ _, rfl, rfl⟩ rfl (Nat.le_max_left ..)
  others id hid := (h.others id hid).trans ⟨.refl _ _, rfl, rfl⟩

theorem run (hf : f.Separates view owner) (hids : (asks.map (·.context.id)).Nodup)
    (h : p.Apart g f view owner asks s₀) {moves : List (Move κ)} (hmoves : ∀ m ∈ moves, m.GoesOn) :
    (p.run g f moves).Apart g f view owner asks s₀ := by
  induction moves generalizing p with
  | nil => exact h
  | cons m moves ih =>
    refine ih ?_ fun m' hm' => hmoves m' (List.mem_cons_of_mem _ hm')
    cases hmoves m (List.mem_cons_self ..) with
    | advance i => exact h.advance hf hids i
    | tick moment => exact h.tick moment

theorem execute_eq (h : p.Apart g f view owner asks s₀) (hrest : p.AtRest) {i : Nat} {a : Asking}
    (ha : asks[i]? = some a) :
    ∃ t, p.tasks[i]? = some t ∧
      (Gateway.execute g f a.principal a.request s₀).1 = t.result?.map (fun r => .ofOutcome (r.map Answer.toJson)) ∧
      (Gateway.execute g f a.principal a.request s₀).2.AgreeAt view owner a.context.id p.state := by
  have hi : i < p.tasks.length := by
    rw [h.length]
    exact (List.getElem?_eq_some_iff.mp ha).1
  have ht := List.getElem?_eq_getElem hi
  obtain ⟨s', hfinish, hpart⟩ := (h.each i _ a ht ha).finish_eq (hrest _ (List.getElem_mem hi))
  rw [Asking.job] at hfinish
  refine ⟨_, ht, ?_⟩
  unfold Gateway.execute
  rw [hfinish]
  exact ⟨rfl, hpart⟩

end Apart

theorem owned_of_start? (hf : f.Separates view owner) {first : ClusterContext} {named : List ClusterContext}
    {clock : Instant} {world : σ} {s : State σ κ} (h : State.start? f first named clock world = some (.ok s))
    (jobs : List Job) (moves : List (Move κ)) (id : String) : ((ofJobs jobs s).run g f moves).state.Owned owner id := by
  rintro slot client rfl hready
  have hend : (ofJobs jobs s).run g f moves = (ofJobs jobs s).after g f moves moves.length := by
    rw [after, List.take_length]
  rw [hend] at hready
  rcases origin_of_ready jobs s _ hready with hstart | ⟨i, b, context, m, -, hcons⟩
  · obtain ⟨rfl, w, hw⟩ := State.ready_of_start? h hstart
    exact hf.owned_of_await? first world hw
  · rw [hcons.connects.owns.2]
    generalize hok : (.ok client : Outcome κ) = outcome at hcons
    cases hcons with
    | atOnce hc hr => exact hf.owned context _ (hok ▸ hr)
    | afterwards hc hr => exact hf.ownedLater context _ _ hr hok.symm

end Pool

/-! ## What the requests come to -/

def Pool.envelopes (p : Pool σ κ) : List (Option Envelope) :=
  p.results.map fun result => result.map fun r => .ofOutcome (r.map Answer.toJson)

namespace Gateway

section
variable [DecidableEq κ] (g : Settings) {f : Fleet σ κ} {view : String → σ → τ} {owner : κ → String}

/-- From every state that is reached from the start, and where what is answered for a context depends on its own
part alone: requests for different contexts, run in any order of their steps until each is done or waits for
ever, and none of them cancelled, come to what each comes to alone, and all other contexts have what they had. -/
theorem contexts_do_not_interfere (hf : f.Separates view owner) {first : ClusterContext} {named : List ClusterContext}
    {clock : Instant} {world : σ} {s₀ s : State σ κ} (h : State.start? f first named clock world = some (.ok s₀))
    (jobs : List Job) (before : List (Move κ)) (hs : ((Pool.ofJobs jobs s₀).run g f before).state = s)
    (asks : List Asking) (hselect : ∀ a ∈ asks, s.registry.contexts.select a.request.context = .ok a.context)
    (hdistinct : (asks.map (·.context)).Nodup)
    (moves : List (Move κ)) (hmoves : ∀ m ∈ moves, m.GoesOn)
    (hrest : ((Pool.ofJobs (asks.map Asking.job) s).run g f moves).AtRest) :
    let p := (Pool.ofJobs (asks.map Asking.job) s).run g f moves
    p.envelopes = asks.map (fun a => (execute g f a.principal a.request s).1) ∧
    (∀ a ∈ asks, (execute g f a.principal a.request s).2.AgreeAt view owner a.context.id p.state) ∧
    ∀ id, (∀ a ∈ asks, a.context.id ≠ id) → s.AgreeAt view owner id p.state := by
  intro p
  have hids : (asks.map (·.context.id)).Nodup := by
    have hmem : ∀ a ∈ asks, a.context ∈ s.registry.contexts.all :=
      fun a ha => (Contexts.mem_of_select (hselect a ha)).1
    have hinj := List.Nodup.map_on (f := ClusterContext.id) (l := asks.map (·.context)) ?_ hdistinct
    · rwa [List.map_map] at hinj
    · simp only [List.mem_map]
      rintro _ ⟨a, ha, rfl⟩ _ ⟨b, hb, rfl⟩ hid
      exact Contexts.eq_of_id (hmem a ha) (hmem b hb) hid
  have howned : ∀ id, s.Owned owner id := fun id => hs ▸ Pool.owned_of_start? hf h jobs before id
  have hapart : p.Apart g f view owner asks s := (Pool.Apart.ofJobs g f hselect howned).run hf hids hmoves
  refine ⟨?_, ?_, hapart.others⟩
  · refine List.ext_getElem? fun i => ?_
    simp only [Pool.envelopes, Pool.results, List.getElem?_map, Option.map_map]
    cases ha : asks[i]? with
    | none =>
      have ht : p.tasks[i]? = none := by
        rw [List.getElem?_eq_none_iff, hapart.length]
        exact List.getElem?_eq_none_iff.mp ha
      rw [ht]
      rfl
    | some a =>
      obtain ⟨t, ht, henvelope, -⟩ := hapart.execute_eq hrest ha
      rw [ht, Option.map_some, Option.map_some, henvelope]
      rfl
  · intro a ha
    obtain ⟨i, hi⟩ := List.getElem?_of_mem ha
    obtain ⟨-, -, -, hpart⟩ := hapart.execute_eq hrest hi
    exact hpart

end

end Gateway

/-! ## An example of separate clusters -/

/-- Clusters that count, for each context, what is done for it, and where the second thing that is done for a
context loses its connection. -/
def Fleet.tallying : Fleet (String → Nat) (String × Nat) :=
  let tally (id : String) (w : String → Nat) : String → Nat := Function.update w id (w id + 1)
  { connect := fun context w => (.later 1 fun w => (.ok (context.id, w context.id), tally context.id w), w)
    call := fun client _ w =>
      (.now (if w client.1 = 1 then .error (.connection "reset") else .ok .null), tally client.1 w)
    describe := fun context _ _ _ w => (.now (.ok (toString (w context.id))), tally context.id w) }

theorem Fleet.tallying_separates : tallying.Separates (fun id w => w id) Prod.fst where
  connect context :=
    { answer := fun _ => .later 1
        { answer := fun hw => by simp only [hw]
          part := fun hw => by simp only [Function.update_self, hw]
          others := fun w other hne => Function.update_of_ne hne _ w }
      part := fun hw => hw
      others := fun _ _ _ => rfl }
  call client c :=
    { answer := fun hw => by
        simp only [tallying, hw]
        exact .now _
      part := fun hw => by simp only [tallying, Function.update_self, hw]
      others := fun w other hne => Function.update_of_ne hne _ w }
  describe context kind ns name :=
    { answer := fun hw => by
        simp only [tallying, hw]
        exact .now _
      part := fun hw => by simp only [tallying, Function.update_self, hw]
      others := fun w other hne => Function.update_of_ne hne _ w }
  owned context w client h := by cases h
  ownedLater context w w' wait finish client h hfinish := by
    cases h
    cases hfinish
    rfl

namespace Gateway

theorem contexts_do_not_interfere_of_eviction :
    let node : ResourceKind := ⟨"node", [], ⟨"", "v1", "Node", "nodes"⟩, .cluster, .uniform .reader, "", ""⟩
    let g : Settings := ⟨⟨[node], by cbv⟩, ⟨[]⟩, some 10⟩
    let first : ClusterContext := ⟨"default", .inCluster⟩
    let staging : ClusterContext := ⟨"staging", .inCluster⟩
    let s : State (String → Nat) (String × Nat) :=
      ⟨.start ⟨first, [staging], by decide⟩ ("default", 0), Function.update (fun _ => 0) "default" 1, 0,
        [.connected ⟨"default", 0⟩ ("default", 0), .connecting ⟨"default", 0⟩]⟩
    let asks : List Asking := [⟨⟨"ann", .reader⟩, { verb := .list, kind := "node" }, first⟩,
      ⟨⟨"bob", .reader⟩, { verb := .list, kind := "node", context := some "staging" }, staging⟩]
    let moves : List (Move (String × Nat)) := [.advance 0, .advance 1, .advance 1, .advance 0, .advance 0, .tick 1,
      .advance 0, .advance 1, .advance 1, .advance 1]
    let p := (Pool.ofJobs (asks.map Asking.job) s).run g .tallying moves
    State.start? .tallying first [staging] 0 (fun _ => 0) = some (.ok s) ∧
      p.state.registry.generation "default" = 1 ∧
      p.envelopes = asks.map (fun a => (execute g .tallying a.principal a.request s).1) ∧
      ∀ a ∈ asks, (execute g .tallying a.principal a.request s).2.AgreeAt (fun id w => w id) Prod.fst a.context.id
        p.state := by
  intro node g first staging s asks moves p
  have hs : State.start? .tallying first [staging] 0 (fun _ => 0) = some (.ok s) := rfl
  have hrest : p.AtRest := by decide +kernel
  obtain ⟨henvelopes, hparts, -⟩ := contexts_do_not_interfere g Fleet.tallying_separates hs [] [] rfl asks
    (by decide +kernel) (by decide +kernel) moves (by decide +kernel) hrest
  exact ⟨hs, by decide +kernel, henvelopes, hparts⟩

end Gateway

end ClusterGateway
