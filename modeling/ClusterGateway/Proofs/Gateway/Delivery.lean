import ClusterGateway.Proofs.Gateway.Alone
import ClusterGateway.Proofs.Gateway.Origin

/-!
# What a task hands back

The value that a task ends with is what the fleet answered to the effect of its own request, at once
or when the task came back for it, in the form that the verb gives to an answer.
-/

namespace ClusterGateway

variable {σ κ : Type}

/-! ## Stages on the way back -/

namespace Stage

def pending? : Stage σ κ → Option (σ → Outcome Json × σ)
  | .calling _ _ _ finish => finish
  | _ => none

def value? : Stage σ κ → Option Json
  | .answered _ _ (.ok v) => some v
  | .finished (.ok (.value v)) => some v
  | _ => none

theorem value?_answered {context : ClusterContext} {client : κ} {outcome : Outcome Json} {v : Json} :
    (answered context client outcome : Stage σ κ).value? = some v ↔ outcome = .ok v := by
  cases outcome <;> simp [value?]

theorem value?_built (errand : Errand) (context : ClusterContext) (outcome : Outcome κ) :
    (built errand context outcome : Stage σ κ).value? = none := by
  cases outcome <;> rfl

theorem pending?_built (errand : Errand) (context : ClusterContext) (outcome : Outcome κ) :
    (built errand context outcome : Stage σ κ).pending? = none := by
  cases outcome <;> rfl

end Stage

namespace Turn

variable {ticket : Nat} {s s' : State σ κ} {st st' : Stage σ κ}

theorem pending?_cases (h : Turn ticket s st st' s') :
    (∃ kind request context client, st = .resolved (.operate kind request) context client) ∨
      st'.pending? = none := by
  cases h with
  | worked => exact .inl ⟨_, _, _, _, rfl⟩
  | working => exact .inl ⟨_, _, _, _, rfl⟩
  | begunAndSettled => exact .inr (Stage.pending?_built _ _ _)
  | settled => exact .inr (Stage.pending?_built _ _ _)
  | _ => exact .inr rfl

theorem value?_cases (h : Turn ticket s st st' s') :
    (∃ kind request context client, st = .resolved (.operate kind request) context client) ∨
      (∃ what context client finish, st = .calling what context client finish) ∨
      st'.value? = st.value? ∨ st'.value? = none := by
  cases h with
  | worked => exact .inl ⟨_, _, _, _, rfl⟩
  | working => exact .inl ⟨_, _, _, _, rfl⟩
  | replied => exact .inr (.inl ⟨_, _, _, _, rfl⟩)
  | begunAndSettled => exact .inr (.inr (.inr (Stage.value?_built _ _ _)))
  | settled => exact .inr (.inr (.inr (Stage.value?_built _ _ _)))
  | ended outcome => exact .inr (.inr (.inl (by cases outcome <;> rfl)))
  | _ => exact .inr (.inr (.inr rfl))

end Turn

/-! ## Starting an effect -/

theorem Task.eq_of_inTime {α : Type} {t : Task σ κ} {s : State σ κ} {wait : Nat} {finish finish' : α}
    (h : t.inTime s wait finish = some finish') : finish = finish' := by
  unfold inTime at h
  split at h
  · exact Option.some.inj h
  · cases h

namespace Task

variable [DecidableEq κ] {g : Settings} {f : Fleet σ κ} {t : Task σ κ} {s : State σ κ}

theorem advance_identity (g : Settings) (f : Fleet σ κ) (t : Task σ κ) (s : State σ κ) :
    (t.advance g f s).1.ticket = t.ticket ∧ (t.advance g f s).1.job = t.job := by
  rcases t.advance_turns g f s with hturn | ⟨hsame, -⟩
  · exact ⟨hturn.1, hturn.2.1⟩
  · rw [hsame]
    exact ⟨rfl, rfl⟩

structure Starts (g : Settings) (f : Fleet σ κ) (t : Task σ κ) (s : State σ κ) (kind : ResourceKind)
    (context : ClusterContext) (client : κ) (e : Effect) : Prop where
  stage : ∃ q, t.stage = .resolved (.operate kind q) context client ∧ Effect.ofRequest kind q = .ok e
  world : (t.advance g f s).2.world = (e.start f kind context client s.world).2

theorem advance_operating {kind : ResourceKind} {q : Request} {context : ClusterContext} {client : κ}
    (hst : t.stage = .resolved (.operate kind q) context client) :
    t.advance g f s = t.operate g f s kind q context client := by
  simp only [advance, hst]

theorem starts_of_resolved {kind : ResourceKind} {q : Request} {context : ClusterContext} {client : κ} {e : Effect}
    (hst : t.stage = .resolved (.operate kind q) context client) (hr : Effect.ofRequest kind q = .ok e) :
    t.Starts g f s kind context client e := by
  refine ⟨⟨q, hst, hr⟩, ?_⟩
  rw [advance_operating hst, operate_eq]
  simp only [hr, perform_eq]
  rfl

theorem Starts.journal {kind : ResourceKind} {context : ClusterContext} {client : κ} {e : Effect}
    (h : t.Starts g f s kind context client e) :
    (t.advance g f s).2.journal = e.event t.ticket kind context client :: s.journal := by
  obtain ⟨q, hst, hr⟩ := h.stage
  rw [advance_operating hst, operate_eq]
  simp only [hr, perform_eq]
  rfl

theorem pending?_advance {finish : σ → Outcome Json × σ} (h : (t.advance g f s).1.stage.pending? = some finish) :
    t.advance g f s = (t, s) ∨ ∃ kind context client e wait first, t.Starts g f s kind context client e ∧
      (e.start f kind context client s.world).1 = .later wait first ∧
      finish = fun w => ((first w).1.map (e.conclude g.hidden kind), (first w).2) := by
  rcases t.advance_turns g f s with hturn | ⟨hsame, -⟩
  · rcases hturn.2.2.pending?_cases with ⟨kind, q, context, client, hst⟩ | hnone
    · rw [advance_operating hst, operate_eq] at h
      cases hr : Effect.ofRequest kind q with
      | error failure =>
        rw [hr] at h
        cases h
      | ok e =>
        simp only [hr, perform_eq] at h
        refine .inr ⟨kind, context, client, e, ?_⟩
        cases hreply : (e.start f kind context client s.world).1 with
        | later wait first =>
          rw [hreply] at h
          exact ⟨wait, first, starts_of_resolved hst hr, rfl, (eq_of_inTime h).symm⟩
        | now outcome =>
          rw [hreply] at h
          cases h
        | never =>
          rw [hreply] at h
          cases h
    · rw [hnone] at h
      cases h
  · exact .inl hsame

theorem value?_advance {v : Json} (h : (t.advance g f s).1.stage.value? = some v) :
    t.stage.value? = some v ∨
      (∃ kind context client e a, t.Starts g f s kind context client e ∧
        (e.start f kind context client s.world).1 = .now (.ok a) ∧ e.conclude g.hidden kind a = v) ∨
      ∃ finish, t.stage.pending? = some finish ∧ (finish s.world).1 = .ok v ∧
        (t.advance g f s).2.world = (finish s.world).2 := by
  rcases t.advance_turns g f s with hturn | ⟨hsame, -⟩
  · rcases hturn.2.2.value?_cases with ⟨kind, q, context, client, hst⟩ | ⟨what, context, client, finish, hst⟩ | hv | hv
    · rw [advance_operating hst, operate_eq] at h
      cases hr : Effect.ofRequest kind q with
      | error failure =>
        rw [hr] at h
        cases h
      | ok e =>
        simp only [hr, perform_eq] at h
        cases hreply : (e.start f kind context client s.world).1 with
        | now outcome =>
          rw [hreply] at h
          obtain ⟨a, rfl, ha⟩ := Checked.map_eq_ok_iff.mp (Stage.value?_answered.mp h)
          exact .inr (.inl ⟨kind, context, client, e, a, starts_of_resolved hst hr, hreply, ha⟩)
        | later wait first =>
          rw [hreply] at h
          cases h
        | never =>
          rw [hreply] at h
          cases h
    · cases finish with
      | none =>
        simp only [advance, hst] at h
        cases h
      | some finish =>
        simp only [advance, hst] at h ⊢
        exact .inr (.inr ⟨finish, rfl, Stage.value?_answered.mp h, rfl⟩)
    · exact .inl (hv ▸ h)
    · rw [hv] at h
      cases h
  · rw [hsame] at h
    exact .inl h

omit [DecidableEq κ] in
theorem abandon_stage (t : Task σ κ) (s : State σ κ) :
    t.abandon s = (t, s) ∨ (t.abandon s).1.stage.pending? = none ∧ (t.abandon s).1.stage.value? = none := by
  unfold abandon
  split
  · exact .inr ⟨rfl, rfl⟩
  · exact .inr ⟨rfl, rfl⟩
  · exact .inr ⟨rfl, rfl⟩
  · exact .inl rfl

end Task

/-! ## Answers in a run -/

namespace Pool

section
variable [DecidableEq κ] (g : Settings) (f : Fleet σ κ) (p : Pool σ κ) (moves : List (Move κ)) (i : Nat)

/-- In this move the task starts an effect, which is the one that its request comes to. -/
structure Performs (n : Nat) (job : Job) (kind : ResourceKind) (context : ClusterContext) (client : κ)
    (e : Effect) : Prop where
  move : moves[n]? = some (.advance i)
  begun : (p.after g f moves (n + 1)).state.journal =
    e.event i kind context client :: (p.after g f moves n).state.journal
  request : ∃ pr q, job = .execute pr q ∧ g.catalog.authorize pr q.kind q.verb = .ok kind ∧
    Effect.ofRequest kind q = .ok e

/-- What a reply of this move comes to: it is there at once, or when the task comes back for it. -/
inductive Collects {α : Type} (n : Nat) : Reply σ α → α → Prop
  | now (a : α) : Collects n (.now a) a
  | later (wait : Nat) (finish : σ → α × σ) {m : Nat} (hlt : n < m) (hm : moves[m]? = some (.advance i)) :
    Collects n (.later wait finish) (finish (p.after g f moves m).state.world).1

def Answered (job : Job) (kind : ResourceKind) (context : ClusterContext) (client : κ) (e : Effect)
    (outcome : Outcome Json) : Prop :=
  ∃ n, p.Performs g f moves i n job kind context client e ∧
    p.Collects g f moves i n (e.start f kind context client (p.after g f moves n).state.world).1 outcome

/-- The value is what the verb makes of an answer to the task. -/
def Delivers (job : Job) (v : Json) : Prop :=
  ∃ kind context client e a, p.Answered g f moves i job kind context client e (.ok a) ∧
    e.conclude g.hidden kind a = v

def Awaits (n : Nat) (job : Job) (finish : σ → Outcome Json × σ) : Prop :=
  ∃ k kind context client e wait first, k < n ∧ p.Performs g f moves i k job kind context client e ∧
    (e.start f kind context client (p.after g f moves k).state.world).1 = .later wait first ∧
    ∀ w, (finish w).1 = (first w).1.map (e.conclude g.hidden kind)

structure Accounts (jobs : List Job) (n : Nat) (t : Task σ κ) : Prop where
  ticket : t.ticket = i
  serves : t.Serves g jobs
  pending : ∀ finish, t.stage.pending? = some finish → p.Awaits g f moves i n t.job finish
  value : ∀ v, t.stage.value? = some v → p.Delivers g f moves i t.job v

end

theorem after_advance [DecidableEq κ] {g : Settings} {f : Fleet σ κ} {p : Pool σ κ} {moves : List (Move κ)} {n i : Nat}
    {t : Task σ κ} (hm : moves[n]? = some (.advance i)) (ht : (p.after g f moves n).tasks[i]? = some t) :
    p.after g f moves (n + 1) = ⟨(p.after g f moves n).tasks.set i (t.advance g f (p.after g f moves n).state).1,
      (t.advance g f (p.after g f moves n).state).2⟩ := by
  rw [after_succ g f p moves hm]
  simp only [step, ht]

namespace Accounts

variable [DecidableEq κ] {g : Settings} {f : Fleet σ κ} {p : Pool σ κ} {moves : List (Move κ)} {i n : Nat}
  {jobs : List Job} {t : Task σ κ}

theorem mono (h : p.Accounts g f moves i jobs n t) : p.Accounts g f moves i jobs (n + 1) t := by
  refine ⟨h.ticket, h.serves, fun finish hf => ?_, h.value⟩
  obtain ⟨k, kind, context, client, e, wait, first, hlt, hrest⟩ := h.pending finish hf
  exact ⟨k, kind, context, client, e, wait, first, Nat.lt_succ_of_lt hlt, hrest⟩

section
variable (hm : moves[n]? = some (.advance i)) (ht : (p.after g f moves n).tasks[i]? = some t)
include hm ht

theorem performs (h : p.Accounts g f moves i jobs n t) {kind : ResourceKind} {context : ClusterContext} {client : κ}
    {e : Effect} (hs : t.Starts g f (p.after g f moves n).state kind context client e) :
    p.Performs g f moves i n t.job kind context client e := by
  obtain ⟨q, hst, hr⟩ := hs.stage
  obtain ⟨pr, hjob, ha⟩ := h.serves.admitted kind q (by rw [hst]; rfl)
  refine ⟨hm, ?_, pr, q, hjob, ha, hr⟩
  rw [after_advance hm ht, ← h.ticket]
  exact hs.journal

theorem advance (h : p.Accounts g f moves i jobs n t) :
    p.Accounts g f moves i jobs (n + 1) (t.advance g f (p.after g f moves n).state).1 := by
  obtain ⟨hticket, hjob⟩ := t.advance_identity g f (p.after g f moves n).state
  refine ⟨hticket.trans h.ticket, h.serves.advance f _, fun finish hf => ?_, fun v hv => ?_⟩
  · rw [hjob]
    rcases Task.pending?_advance hf with hsame | ⟨kind, context, client, e, wait, first, hs, hreply, rfl⟩
    · rw [hsame] at hf
      exact h.mono.pending finish hf
    · exact ⟨n, kind, context, client, e, wait, first, Nat.lt_succ_self n, h.performs hm ht hs, hreply, fun _ => rfl⟩
  · rw [hjob]
    rcases Task.value?_advance hv with hsame | ⟨kind, context, client, e, a, hs, hreply, ha⟩ |
      ⟨finish, hpending, hanswer, -⟩
    · exact h.value v hsame
    · refine ⟨kind, context, client, e, a, ⟨n, h.performs hm ht hs, ?_⟩, ha⟩
      rw [hreply]
      exact .now _
    · -- the reply dates from move `k`, but what it comes to is read off the world of this move
      obtain ⟨k, kind, context, client, e, wait, first, hlt, hperforms, hreply, hfirst⟩ := h.pending finish hpending
      rw [hfirst, Checked.map_eq_ok_iff] at hanswer
      obtain ⟨a, ha, hv⟩ := hanswer
      refine ⟨kind, context, client, e, a, ⟨k, hperforms, ?_⟩, hv⟩
      rw [hreply, ← ha]
      exact .later wait first hlt hm

end

theorem abandon (h : p.Accounts g f moves i jobs n t) (s : State σ κ) :
    p.Accounts g f moves i jobs (n + 1) (t.abandon s).1 := by
  rcases t.abandon_stage s with hsame | ⟨hpending, hvalue⟩
  · rw [hsame]
    exact h.mono
  · have hticket : (t.abandon s).1.ticket = t.ticket := by
      rcases t.abandon_cases s with hsame | ⟨hticket, -⟩
      · rw [hsame]
      · exact hticket
    refine ⟨hticket.trans h.ticket, h.serves.abandon s, fun finish hf => ?_, fun v hv => ?_⟩
    · rw [hpending] at hf
      cases hf
    · rw [hvalue] at hv
      cases hv

end Accounts

theorem getElem?_step [DecidableEq κ] (g : Settings) (f : Fleet σ κ) {p : Pool σ κ} {m : Move κ} {i : Nat}
    {t : Task σ κ} (ht : (p.step g f m).tasks[i]? = some t) : p.tasks[i]? = some t ∨
      (∃ u, p.tasks[i]? = some u ∧ m = .advance i ∧ t = (u.advance g f p.state).1) ∨
      ∃ u, p.tasks[i]? = some u ∧ m = .abandon i ∧ t = (u.abandon p.state).1 := by
  generalize hp' : p.step g f m = p' at ht
  cases moved_of_eq hp' with
  | @advance j u hu =>
    rcases getElem?_set_cases ht with ⟨rfl, rfl⟩ | ⟨-, ht⟩
    · exact .inr (.inl ⟨u, hu, rfl, rfl⟩)
    · exact .inl ht
  | @abandon j u hu =>
    rcases getElem?_set_cases ht with ⟨rfl, rfl⟩ | ⟨-, ht⟩
    · exact .inr (.inr ⟨u, hu, rfl, rfl⟩)
    · exact .inl ht
  | _ => exact .inl ht

theorem value?_of_finished [DecidableEq κ] {g : Settings} {f : Fleet σ κ} {p : Pool σ κ} {moves : List (Move κ)}
    {i : Nat} {v : Json} (hv : (p.run g f moves).results[i]? = some (some (.ok (.value v)))) :
    ∃ t, (p.after g f moves moves.length).tasks[i]? = some t ∧ t.stage.value? = some v := by
  rw [results, List.getElem?_map, Option.map_eq_some_iff] at hv
  obtain ⟨t, ht, hresult⟩ := hv
  refine ⟨t, by rw [after, List.take_length]; exact ht, ?_⟩
  unfold Task.result? at hresult
  split at hresult
  next result hst =>
    obtain rfl := Option.some.inj hresult
    rw [hst]
    rfl
  next => cases hresult

/-- What a task keeps from one moment to the next, and through its own steps, it has at every moment. -/
theorem after_induction [DecidableEq κ] {g : Settings} {f : Fleet σ κ} {p : Pool σ κ} {moves : List (Move κ)} {i : Nat}
    {P : Nat → Task σ κ → Prop} (start : ∀ t, p.tasks[i]? = some t → P 0 t) (mono : ∀ n t, P n t → P (n + 1) t)
    (advance : ∀ n t, moves[n]? = some (.advance i) → (p.after g f moves n).tasks[i]? = some t → P n t →
      P (n + 1) (t.advance g f (p.after g f moves n).state).1)
    (abandon : ∀ n t, P n t → P (n + 1) (t.abandon (p.after g f moves n).state).1) (n : Nat) {t : Task σ κ}
    (ht : (p.after g f moves n).tasks[i]? = some t) : P n t := by
  induction n generalizing t with
  | zero => exact start t ht
  | succ n ih =>
    cases hm : moves[n]? with
    | none =>
      rw [after_succ_of_none g f p moves hm] at ht
      exact mono n t (ih ht)
    | some m =>
      rw [after_succ g f p moves hm] at ht
      rcases getElem?_step g f ht with hu | ⟨u, hu, rfl, rfl⟩ | ⟨u, hu, rfl, rfl⟩
      · exact mono n t (ih hu)
      · exact advance n u hm hu (ih hu)
      · exact abandon n u (ih hu)

section
variable [DecidableEq κ] (g : Settings) (f : Fleet σ κ) (jobs : List Job) (s : State σ κ) (moves : List (Move κ))

theorem accounts_after (n : Nat) {i : Nat} {t : Task σ κ}
    (ht : ((ofJobs jobs s).after g f moves n).tasks[i]? = some t) :
    (ofJobs jobs s).Accounts g f moves i jobs n t := by
  refine after_induction (fun t ht => ?_) (fun _ _ h => h.mono) (fun _ _ hm hu h => h.advance hm hu)
    (fun _ _ h => h.abandon _) n ht
  have hserves := serves_ofJobs g jobs s i t ht
  obtain ⟨job, -, rfl⟩ := start_of_ofJobs ht
  exact ⟨rfl, hserves, (fun _ hf => by cases hf), (fun _ hv => by cases hv)⟩

theorem delivers_of_finished {i : Nat} {pr : Principal} {q : Request} {v : Json}
    (hjob : jobs[i]? = some (.execute pr q))
    (hv : ((ofJobs jobs s).run g f moves).results[i]? = some (some (.ok (.value v)))) :
    (ofJobs jobs s).Delivers g f moves i (.execute pr q) v := by
  obtain ⟨t, ht, hvalue⟩ := value?_of_finished hv
  have h := accounts_after g f jobs s moves moves.length ht
  have hj := h.serves.job
  rw [h.ticket, hjob] at hj
  rw [Option.some.inj hj]
  exact h.value v hvalue

end

end Pool

end ClusterGateway
