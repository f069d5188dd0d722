import ClusterGateway.Proofs.Gateway.Interleaving
import ClusterGateway.Proofs.Gateway.Stages
import ClusterGateway.Proofs.Operation.Accepted

/-!
# Where operations come from

In every interleaving, a call or a run of the describe tool is what was planned for a request
among the jobs that the gate let through. So what holds of all plans holds of all that leaves the
gateway.
-/

namespace ClusterGateway

variable {σ κ : Type}

def Event.IsEffectOf (g : Settings) (jobs : List Job) (P : ResourceKind → Request → Effect → Prop)
    (e : Event κ) : Prop :=
  ∃ ticket p q kind context client effect, jobs[ticket]? = some (.execute p q) ∧
    g.catalog.authorize p q.kind q.verb = .ok kind ∧ P kind q effect ∧
    e = Effect.event ticket kind context client effect

theorem Event.IsEffectOf.mono {g : Settings} {jobs : List Job} {P Q : ResourceKind → Request → Effect → Prop}
    {e : Event κ} (h : e.IsEffectOf g jobs P) (hPQ : ∀ kind q effect, P kind q effect → Q kind q effect) :
    e.IsEffectOf g jobs Q := by
  obtain ⟨ticket, p, q, kind, context, client, effect, hjob, ha, hp, he⟩ := h
  exact ⟨ticket, p, q, kind, context, client, effect, hjob, ha, hPQ _ _ _ hp, he⟩

/-! ## What is added to the journal -/

namespace State

def Adds (P : Event κ → Prop) (s s' : State σ κ) : Prop :=
  ∃ es, s'.journal = es ++ s.journal ∧ ∀ e ∈ es, e.isOperation = true → P e

namespace Adds

variable {P Q : Event κ → Prop} {s s' s'' : State σ κ}

theorem same (h : s'.journal = s.journal) : Adds P s s' := ⟨[], h, fun _ he => by cases he⟩

theorem one {e : Event κ} (h : s'.journal = e :: s.journal) (he : e.isOperation = true → P e) : Adds P s s' := by
  refine ⟨[e], h, fun e' h' => ?_⟩
  cases List.mem_singleton.mp h'
  exact he

theorem trans (h : Adds P s s') (h' : Adds P s' s'') : Adds P s s'' := by
  obtain ⟨es, hj, hp⟩ := h
  obtain ⟨es', hj', hp'⟩ := h'
  refine ⟨es' ++ es, by rw [hj', hj, List.append_assoc], fun e he => ?_⟩
  rcases List.mem_append.mp he with he | he
  · exact hp' e he
  · exact hp e he

theorem mem (h : Adds P s s') {es : List (Event κ)} (hes : s'.journal = es ++ s.journal) {e : Event κ} (he : e ∈ es)
    (ho : e.isOperation = true) : P e := by
  obtain ⟨es', hj, hp⟩ := h
  obtain rfl : es = es' := List.append_cancel_right (hes.symm.trans hj)
  exact hp e he ho

theorem mono (h : Adds P s s') (hPQ : ∀ e, P e → Q e) : Adds Q s s' := by
  obtain ⟨es, hj, hp⟩ := h
  exact ⟨es, hj, fun e he ho => hPQ e (hp e he ho)⟩

end Adds

theorem adds_settle (P : Event κ → Prop) (s : State σ κ) (slot : SlotId) (outcome : Outcome κ) :
    s.Adds P (s.settle slot outcome) := by
  cases outcome with
  | ok client => exact .one rfl nofun
  | error failure => exact .one rfl nofun

end State

theorem Turn.adds {ticket : Nat} {s s' : State σ κ} {st st' : Stage σ κ} (h : Turn ticket s st st' s') :
    s.Adds (fun _ => ∃ kind request context client, st = .resolved (.operate kind request) context client) s' := by
  cases h with
  | begun => exact .one rfl nofun
  | begunAndSettled world outcome =>
    refine .trans ?_ (State.adds_settle _ _ _ outcome)
    exact .one rfl nofun
  | settled world outcome => exact .trans (.same rfl) (State.adds_settle _ _ _ outcome)
  | droppedBuild => exact .one rfl nofun
  | worked => exact .one rfl fun _ => ⟨_, _, _, _, rfl⟩
  | working => exact .one rfl fun _ => ⟨_, _, _, _, rfl⟩
  | evicted => exact .one rfl nofun
  | _ => exact .same rfl

/-! ## Errands -/

def Stage.errand? : Stage σ κ → Option Errand
  | .resolving errand _ _ => some errand
  | .connecting errand _ _ _ => some errand
  | .resolved errand _ _ => some errand
  | _ => none

theorem Turn.errand?_cases {ticket : Nat} {s s' : State σ κ} {st st' : Stage σ κ} (h : Turn ticket s st st' s') :
    st = .arrived ∨ st'.errand? = st.errand? ∨ st'.errand? = none := by
  cases h with
  | denied => exact .inl rfl
  | selected => exact .inl rfl
  | begunAndSettled world outcome => cases outcome <;> simp [Stage.built, Stage.errand?]
  | settled world outcome => cases outcome <;> simp [Stage.built, Stage.errand?]
  | _ => simp [Stage.errand?]

namespace Task

/-- The errand of the task is its own request, which has passed the gate. -/
def Admitted (g : Settings) (t : Task σ κ) : Prop :=
  ∀ kind request, t.stage.errand? = some (.operate kind request) →
    ∃ p, t.job = .execute p request ∧ g.catalog.authorize p request.kind request.verb = .ok kind

structure Serves (g : Settings) (jobs : List Job) (t : Task σ κ) : Prop where
  job : jobs[t.ticket]? = some t.job
  admitted : t.Admitted g

variable {g : Settings} {jobs : List Job} {t : Task σ κ}

theorem errand?_lookUp {s : State σ κ} {errand errand' : Errand} {id : Option String}
    (h : (t.lookUp s errand id).stage.errand? = some errand') : errand' = errand := by
  unfold lookUp at h
  split at h
  · cases h
  · exact (Option.some.inj h).symm

theorem admitted_arrive (g : Settings) (t : Task σ κ) (s : State σ κ) (h : t.stage = .arrived) :
    (t.arrive g s).Admitted g := by
  intro kind request hstage
  rw [(arrive_turns g t s h).2.1]
  unfold arrive at hstage
  split at hstage
  · cases errand?_lookUp hstage
  · next p q hjob =>
    split at hstage
    · cases hstage
    · next r ha =>
      cases errand?_lookUp hstage
      exact ⟨p, hjob, ha⟩

theorem admitted_of_turns {s : State σ κ} {next : Task σ κ × State σ κ} (ha : t.Admitted g)
    (h : t.Turns s next) (hs : t.stage ≠ .arrived) : next.1.Admitted g := by
  intro kind request hstage
  rw [h.2.1]
  rcases h.2.2.errand?_cases with hc | hc | hc
  · exact absurd hc hs
  · exact ha kind request (hc ▸ hstage)
  · rw [hc] at hstage
    cases hstage

section
variable [DecidableEq κ] (f : Fleet σ κ) (s : State σ κ)

theorem Serves.advance (h : t.Serves g jobs) : (t.advance g f s).1.Serves g jobs := by
  rcases t.advance_turns g f s with hturn | ⟨hsame, -⟩
  · refine ⟨by rw [hturn.1, hturn.2.1]; exact h.job, ?_⟩
    by_cases hs : t.stage = .arrived
    · have hadvance : t.advance g f s = (t.arrive g s, s) := by simp only [Task.advance, hs]
      rw [hadvance]
      exact admitted_arrive g t s hs
    · exact admitted_of_turns h.admitted hturn hs
  · rw [hsame]
    exact h

theorem Serves.adds_advance (h : t.Serves g jobs) :
    s.Adds (Event.IsEffectOf g jobs fun kind q e => Effect.plan kind q = .ok e) (t.advance g f s).2 := by
  by_cases hs : ∃ kind request context client, t.stage = .resolved (.operate kind request) context client
  · obtain ⟨kind, request, context, client, hs⟩ := hs
    obtain ⟨p, hjob, ha⟩ := h.admitted kind request (by rw [hs]; rfl)
    have hadvance : t.advance g f s = t.operate g f s kind request context client := by
      simp only [Task.advance, hs]
    rw [hadvance, operate_eq]
    cases hr : Effect.ofRequest kind request with
    | error failure => exact .same rfl
    | ok e =>
      simp only [perform_eq]
      refine .one rfl fun _ => ⟨t.ticket, p, request, kind, context, client, e, ?_, ha, ?_, rfl⟩
      · rw [h.job, hjob]
      · exact (Effect.ofRequest_eq_ok_iff.mp hr).2
  · rcases t.advance_turns g f s with hturn | ⟨hsame, -⟩
    · exact hturn.2.2.adds.mono fun e hstage => absurd hstage hs
    · rw [hsame]
      exact .same rfl

end

theorem abandon_cases (t : Task σ κ) (s : State σ κ) :
    t.abandon s = (t, s) ∨ (t.abandon s).1.ticket = t.ticket ∧ (t.abandon s).1.job = t.job ∧
      (t.abandon s).1.stage.errand? = none := by
  unfold abandon
  split
  · exact .inr ⟨rfl, rfl, rfl⟩
  · exact .inr ⟨rfl, rfl, rfl⟩
  · exact .inr ⟨rfl, rfl, rfl⟩
  · exact .inl rfl

theorem Serves.abandon (h : t.Serves g jobs) (s : State σ κ) : (t.abandon s).1.Serves g jobs := by
  rcases t.abandon_cases s with hsame | ⟨hticket, hjob, herrand⟩
  · rw [hsame]
    exact h
  · refine ⟨by rw [hticket, hjob]; exact h.job, fun kind request hstage => ?_⟩
    rw [herrand] at hstage
    cases hstage

theorem adds_abandon (P : Event κ → Prop) (t : Task σ κ) (s : State σ κ) : s.Adds P (t.abandon s).2 := by
  unfold Task.abandon
  split
  · exact .same rfl
  · exact .one rfl nofun
  · exact .same rfl
  · exact .same rfl

end Task

/-! ## Pools -/

namespace State

variable (P : Event κ → Prop) (s : State σ κ)

theorem adds_invalidate (id : String) : s.Adds P (s.invalidate id).2 := by
  rw [invalidate_eq]
  split
  · exact .one rfl nofun
  · exact .same rfl

theorem adds_invalidateClient [DecidableEq κ] (id : String) (client : κ) :
    s.Adds P (s.invalidateClient id client).2 := by
  rw [invalidateClient_eq]
  split
  · exact .one rfl nofun
  · exact .same rfl

end State

namespace Pool

def Serves (g : Settings) (jobs : List Job) (p : Pool σ κ) : Prop :=
  ∀ (i : Nat) (t : Task σ κ), p.tasks[i]? = some t → t.Serves g jobs

variable [DecidableEq κ] (g : Settings) (f : Fleet σ κ)

omit [DecidableEq κ] in
theorem serves_ofJobs (jobs : List Job) (s : State σ κ) : (ofJobs jobs s).Serves g jobs := by
  intro i t ht
  obtain ⟨job, hjob, rfl⟩ := start_of_ofJobs ht
  exact ⟨hjob, fun kind request h => by cases h⟩

theorem Serves.step {g : Settings} {jobs : List Job} {p : Pool σ κ} (h : p.Serves g jobs) (m : Move κ) :
    (p.step g f m).Serves g jobs ∧
      p.state.Adds (Event.IsEffectOf g jobs fun kind q e => Effect.plan kind q = .ok e) (p.step g f m).state := by
  -- all tasks but the one that moves are what they were
  have hset : ∀ {i : Nat} {t : Task σ κ} {s : State σ κ}, t.Serves g jobs →
      (⟨p.tasks.set i t, s⟩ : Pool σ κ).Serves g jobs := by
    intro i t s ht j u hu
    rcases getElem?_set_cases hu with ⟨-, rfl⟩ | ⟨-, hu⟩
    · exact ht
    · exact h j u hu
  generalize hp' : p.step g f m = p'
  cases moved_of_eq hp' with
  | still => exact ⟨h, .same rfl⟩
  | @advance i t ht => exact ⟨hset ((h i t ht).advance f p.state), (h i t ht).adds_advance f p.state⟩
  | @abandon i t ht => exact ⟨hset ((h i t ht).abandon p.state), Task.adds_abandon _ t p.state⟩
  | invalidate id => exact ⟨h, p.state.adds_invalidate _ id⟩
  | invalidateClient id client => exact ⟨h, p.state.adds_invalidateClient _ id client⟩
  | tick moment => exact ⟨h, .same rfl⟩

theorem Serves.run {g : Settings} {jobs : List Job} {p : Pool σ κ} (h : p.Serves g jobs) (moves : List (Move κ)) :
    p.state.Adds (Event.IsEffectOf g jobs fun kind q e => Effect.plan kind q = .ok e) (p.run g f moves).state := by
  induction moves generalizing p with
  | nil => exact .same rfl
  | cons m moves ih =>
    obtain ⟨hserves, hadds⟩ := h.step f m
    exact hadds.trans (ih hserves)

theorem operations_of_run {P : ResourceKind → Request → Effect → Prop}
    (hP : ∀ kind q, (Effect.plan kind q).Yields (P kind q)) (jobs : List Job) (s : State σ κ)
    (moves : List (Move κ)) :
    s.Adds (Event.IsEffectOf g jobs P) ((ofJobs jobs s).run g f moves).state :=
  ((serves_ofJobs g jobs s).run f moves).mono fun _ he => he.mono fun kind q e hplan => hP kind q e hplan

end Pool

/-! ## A request alone -/

section
variable [DecidableEq κ] (g : Settings) (f : Fleet σ κ)

theorem Task.exists_run (n : Nat) (t : Task σ κ) (s : State σ κ) :
    ∃ moves t', (⟨[t], s⟩ : Pool σ κ).run g f moves = ⟨[t'], (t.run g f n s).2⟩ := by
  induction n generalizing t s with
  | zero => exact ⟨[], t, rfl⟩
  | succ n ih =>
    unfold Task.run
    split
    · exact ⟨[], t, rfl⟩
    · split
      · obtain ⟨moves, t', h⟩ := ih (t.abandon s).1 (t.abandon s).2
        exact ⟨.abandon 0 :: moves, t', h⟩
      · split
        · split
          · exact ⟨[], t, rfl⟩
          · next d _ =>
            obtain ⟨moves, t', h⟩ := ih (t.abandon (s.atLeast d)).1 (t.abandon (s.atLeast d)).2
            exact ⟨.tick d :: .abandon 0 :: moves, t', h⟩
        · obtain ⟨moves, t', h⟩ := ih (t.advance g f s).1 (t.advance g f s).2
          exact ⟨.advance 0 :: moves, t', h⟩

theorem Gateway.exists_run_execute (p : Principal) (q : Request) (s : State σ κ) :
    ∃ moves, ((Pool.ofJobs [.execute p q] s).run g f moves).state = (Gateway.execute g f p q s).2 := by
  obtain ⟨moves, t', h⟩ := Task.exists_run g f 6 (Task.start 0 (.execute p q)) s
  exact ⟨moves, congrArg Pool.state h⟩

end

end ClusterGateway
