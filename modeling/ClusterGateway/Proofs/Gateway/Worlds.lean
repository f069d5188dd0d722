import ClusterGateway.Proofs.Gateway.Completion

/-!
# How worlds go on

The world behind the clusters changes only where a task asks for something and where it comes back for
a reply. So an order of worlds that no reply breaks holds between any two moments of a run.
-/

namespace ClusterGateway

variable {σ κ : Type}

/-- In the worlds that may come up, a reply goes on in this order, and so does what is collected
later. -/
structure Reply.GoesOn {α : Type} (up : σ → Prop) (R : σ → σ → Prop) (w : σ) (r : Reply σ α × σ) : Prop where
  now : up r.2 ∧ R w r.2
  later : ∀ wait finish, r.1 = .later wait finish → ∀ w', up w' → up (finish w').2 ∧ R w' (finish w').2

structure Fleet.GoesOn (f : Fleet σ κ) (up : σ → Prop) (R : σ → σ → Prop) : Prop where
  refl w : R w w
  trans {a b c} : R a b → R b c → R a c
  connect context {w} : up w → Reply.GoesOn up R w (f.connect context w)
  call client c {w} : up w → Reply.GoesOn up R w (f.call client c w)
  describe context kind ns name {w} : up w → Reply.GoesOn up R w (f.describe context kind ns name w)

variable {f : Fleet σ κ} {up : σ → Prop} {R : σ → σ → Prop}

theorem Effect.start_goesOn (hf : f.GoesOn up R) (kind : ResourceKind) (context : ClusterContext) (client : κ)
    (e : Effect) {w : σ} (hw : up w) : Reply.GoesOn up R w (e.start f kind context client w) := by
  cases e with
  | call c => exact hf.call client c hw
  | describe ns name =>
    have h := hf.describe context kind ns name hw
    refine ⟨h.now, fun wait finish hreply w' hw' => ?_⟩
    simp only [start] at hreply
    cases hr : (f.describe context kind ns name w).1 with
    | later wait' first =>
      rw [hr] at hreply
      cases hreply
      exact h.later _ _ hr w' hw'
    | now outcome =>
      rw [hr] at hreply
      cases hreply
    | never =>
      rw [hr] at hreply
      cases hreply

/-! ## Tasks -/

structure Stage.GoesOn (up : σ → Prop) (R : σ → σ → Prop) (st : Stage σ κ) : Prop where
  connecting : ∀ errand context slot finish, st = .connecting errand context slot (some finish) →
    ∀ w, up w → up (finish w).2 ∧ R w (finish w).2
  pending : ∀ finish, st.pending? = some finish → ∀ w, up w → up (finish w).2 ∧ R w (finish w).2

namespace State

theorem world_settle (s : State σ κ) (slot : SlotId) (outcome : Outcome κ) :
    (s.settle slot outcome).world = s.world := by
  cases outcome <;> rfl

theorem world_invalidate (s : State σ κ) (id : String) : (s.invalidate id).2.world = s.world := by
  rcases s.invalidate_cases id with h | h
  · rw [h]
    rfl
  · rw [h]

theorem world_invalidateClient [DecidableEq κ] (s : State σ κ) (id : String) (client : κ) :
    (s.invalidateClient id client).2.world = s.world := by
  rcases s.invalidateClient_cases id client with h | h
  · rw [h]
    rfl
  · rw [h]

end State

namespace Task

variable [DecidableEq κ] {g : Settings} {t : Task σ κ} {s : State σ κ}

theorem world_advance_cases (g : Settings) (f : Fleet σ κ) (t : Task σ κ) (s : State σ κ) :
    (t.advance g f s).2.world = s.world ∨
      (∃ context, (t.advance g f s).2.world = (f.connect context s.world).2) ∨
      (∃ errand context slot finish, t.stage = .connecting errand context slot (some finish) ∧
        (t.advance g f s).2.world = (finish s.world).2) ∨
      (∃ kind context client e, t.Starts g f s kind context client e) ∨
      ∃ finish, t.stage.pending? = some finish ∧ (t.advance g f s).2.world = (finish s.world).2 := by
  cases hst : t.stage with
  | arrived =>
    exact .inl (by simp only [advance, hst])
  | resolving errand context slot =>
    cases hslot : s.registry.slots slot with
    | ready client => exact .inl (by rw [advance_found g f hst hslot])
    | building => exact .inl (by rw [advance_waiting g f hst hslot])
    | empty =>
      rw [advance_resolving g f hst hslot, (t.building_called _ errand context slot _).1]
      exact .inr (.inl ⟨context, rfl⟩)
  | connecting errand context slot finish =>
    cases finish with
    | none => exact .inl (by simp only [advance, hst])
    | some finish =>
      simp only [advance, hst, connected_eq, State.world_settle]
      exact .inr (.inr (.inl ⟨errand, context, slot, finish, rfl, rfl⟩))
  | resolved errand context client =>
    cases errand with
    | handOver => exact .inl (by simp only [advance, hst])
    | operate kind q =>
      cases hr : Effect.ofRequest kind q with
      | error failure =>
        exact .inl (by rw [advance_operating hst, operate_eq, hr])
      | ok e => exact .inr (.inr (.inr (.inl ⟨kind, context, client, e, starts_of_resolved hst hr⟩)))
  | calling what context client finish =>
    cases finish with
    | none => exact .inl (by simp only [advance, hst])
    | some finish =>
      simp only [advance, hst]
      exact .inr (.inr (.inr (.inr ⟨finish, rfl, rfl⟩)))
  | answered context client outcome =>
    refine .inl ?_
    simp only [advance, hst, answer]
    split
    · split
      · exact s.world_invalidateClient _ _
      · rfl
    · rfl
  | finished result => exact .inl (by simp only [advance, hst])

omit [DecidableEq κ] in
theorem world_abandon (t : Task σ κ) (s : State σ κ) : (t.abandon s).2.world = s.world := by
  unfold abandon
  split <;> rfl

variable (hf : f.GoesOn up R)
include hf

theorem goesOn_advance (ht : t.stage.GoesOn up R) (hs : up s.world) :
    (up (t.advance g f s).2.world ∧ R s.world (t.advance g f s).2.world) ∧ (t.advance g f s).1.stage.GoesOn up R := by
  constructor
  · rcases world_advance_cases g f t s with hw | ⟨context, hw⟩ | ⟨errand, context, slot, finish, hst, hw⟩ |
      ⟨kind, context, client, e, hstarts⟩ | ⟨finish, hpending, hw⟩
    · rw [hw]
      exact ⟨hs, hf.refl _⟩
    · rw [hw]
      exact (hf.connect context hs).now
    · rw [hw]
      exact ht.connecting errand context slot finish hst _ hs
    · rw [hstarts.world]
      exact (e.start_goesOn hf kind context client hs).now
    · rw [hw]
      exact ht.pending finish hpending _ hs
  · constructor
    · intro errand context slot finish hst
      rcases advance_connecting g f hst with hsame | ⟨-, -, hreply⟩
      · rw [hsame] at hst
        exact ht.connecting errand context slot finish hst
      · obtain ⟨wait, hr⟩ := hreply finish rfl
        exact (hf.connect context hs).later wait finish hr
    · intro finish hpending
      rcases pending?_advance hpending with hsame | ⟨kind, context, client, e, wait, first, -, hr, rfl⟩
      · rw [hsame] at hpending
        exact ht.pending finish hpending
      · exact (e.start_goesOn hf kind context client hs).later wait first hr

omit hf [DecidableEq κ] in
theorem goesOn_abandon (ht : t.stage.GoesOn up R) (s : State σ κ) : (t.abandon s).1.stage.GoesOn up R := by
  constructor
  · intro errand context slot finish hst
    rcases t.abandon_cases s with hsame | ⟨-, -, herrand⟩
    · rw [hsame] at hst
      exact ht.connecting errand context slot finish hst
    · rw [hst] at herrand
      cases herrand
  · intro finish hpending
    rcases t.abandon_stage s with hsame | ⟨hnone, -⟩
    · rw [hsame] at hpending
      exact ht.pending finish hpending
    · rw [hnone] at hpending
      cases hpending

end Task

/-! ## Runs -/

namespace Pool

variable [DecidableEq κ] {g : Settings} {p : Pool σ κ}

structure GoesOn (up : σ → Prop) (R : σ → σ → Prop) (p : Pool σ κ) : Prop where
  world : up p.state.world
  stage : ∀ (i : Nat) (t : Task σ κ), p.tasks[i]? = some t → t.stage.GoesOn up R

omit [DecidableEq κ] in
theorem goesOn_ofJobs (jobs : List Job) {s : State σ κ} (hs : up s.world) : (ofJobs jobs s).GoesOn up R := by
  refine ⟨hs, fun i t ht => ?_⟩
  obtain ⟨job, -, rfl⟩ := start_of_ofJobs ht
  exact ⟨(fun _ _ _ _ h => by cases h), (fun _ h => by cases h)⟩

theorem GoesOn.world_step (hf : f.GoesOn up R) (hp : p.GoesOn up R) (m : Move κ) :
    up (p.step g f m).state.world ∧ R p.state.world (p.step g f m).state.world := by
  have still : ∀ {q : Pool σ κ}, q.state.world = p.state.world → up q.state.world ∧ R p.state.world q.state.world := by
    intro q hq
    rw [hq]
    exact ⟨hp.world, hf.refl _⟩
  generalize hp' : p.step g f m = p'
  cases moved_of_eq hp' with
  | still => exact still rfl
  | @advance i t ht => exact (Task.goesOn_advance hf (hp.stage i t ht) hp.world).1
  | @abandon i t ht => exact still (t.world_abandon p.state)
  | invalidate id => exact still (p.state.world_invalidate id)
  | invalidateClient id client => exact still (p.state.world_invalidateClient id client)
  | tick moment => exact still rfl

theorem GoesOn.step (hf : f.GoesOn up R) (hp : p.GoesOn up R) (m : Move κ) : (p.step g f m).GoesOn up R := by
  refine ⟨(hp.world_step hf m).1, fun i t ht => ?_⟩
  rcases getElem?_step g f ht with hu | ⟨u, hu, -, rfl⟩ | ⟨u, hu, -, rfl⟩
  · exact hp.stage i t hu
  · exact (Task.goesOn_advance hf (hp.stage i u hu) hp.world).2
  · exact Task.goesOn_abandon (hp.stage i u hu) _

variable (g) (hf : f.GoesOn up R) (jobs : List Job) {s : State σ κ} (hs : up s.world) (moves : List (Move κ))
include hf hs

theorem goesOn_after (n : Nat) : ((ofJobs jobs s).after g f moves n).GoesOn up R :=
  after_of_step g f _ moves (goesOn_ofJobs jobs hs) (fun _ m hq => hq.step hf m) n

theorem world_goesOn {n m : Nat} (h : n ≤ m) :
    R ((ofJobs jobs s).after g f moves n).state.world ((ofJobs jobs s).after g f moves m).state.world := by
  induction m, h using Nat.le_induction with
  | base => exact hf.refl _
  | succ m _ ih =>
    refine hf.trans ih ?_
    cases hm : moves[m]? with
    | none =>
      rw [after_succ_of_none g f _ moves hm]
      exact hf.refl _
    | some move =>
      rw [after_succ g f _ moves hm]
      exact ((goesOn_after g hf jobs hs moves m).world_step hf move).2

end Pool

end ClusterGateway
