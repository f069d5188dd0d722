import ClusterGateway.Proofs.Gateway.Alone

/-!
# Requests that nothing tells apart

Of a request a task reads its verb, its context and its deadline, what the gate says of it and the
effect that it comes to. Two requests that agree in these are alike, and whoever puts one in the
place of the other sees no difference: each step keeps two tasks alike and leaves the same state.
-/

namespace ClusterGateway

variable {σ κ : Type}

/-- Two requests of a principal agree in all that a task reads of them. -/
structure Request.Alike (c : Catalog) (p : Principal) (q q' : Request) : Prop where
  verb : q.verb = q'.verb
  context : q.context = q'.context
  deadline : q.deadline = q'.deadline
  gate : c.authorize p q.kind q.verb = c.authorize p q'.kind q'.verb
  effect : ∀ kind, c.authorize p q.kind q.verb = .ok kind → Effect.ofRequest kind q = Effect.ofRequest kind q'

theorem Request.Alike.refl (c : Catalog) (p : Principal) (q : Request) : Request.Alike c p q q :=
  ⟨rfl, rfl, rfl, rfl, fun _ _ => rfl⟩

/-! ## Tasks -/

inductive Job.Alike (c : Catalog) : Job → Job → Prop
  | resolve (context : Option String) : Alike c (.resolve context) (.resolve context)
  | execute {p q q'} (h : Request.Alike c p q q') : Alike c (.execute p q) (.execute p q')

theorem Job.Alike.refl (c : Catalog) (j : Job) : Job.Alike c j j := by
  cases j with
  | resolve context => exact .resolve context
  | execute p q => exact .execute (.refl c p q)

/-- Past the gate the kind stands in the errand, and the verb and the effect are all that is left. -/
inductive Errand.Alike : Errand → Errand → Prop
  | handOver : Alike .handOver .handOver
  | operate {kind q q'} (verb : q.verb = q'.verb) (effect : Effect.ofRequest kind q = Effect.ofRequest kind q') :
    Alike (.operate kind q) (.operate kind q')

inductive Stage.Alike : Stage σ κ → Stage σ κ → Prop
  | arrived : Alike .arrived .arrived
  | resolving {e e'} (h : e.Alike e') (context slot) :
    Alike (.resolving e context slot) (.resolving e' context slot)
  | connecting {e e'} (h : e.Alike e') (context slot finish) :
    Alike (.connecting e context slot finish) (.connecting e' context slot finish)
  | resolved {e e'} (h : e.Alike e') (context client) :
    Alike (.resolved e context client) (.resolved e' context client)
  | calling (what context client finish) :
    Alike (.calling what context client finish) (.calling what context client finish)
  | answered (context client outcome) :
    Alike (.answered context client outcome) (.answered context client outcome)
  | finished (result) : Alike (.finished result) (.finished result)

inductive Task.Alike (c : Catalog) : Task σ κ → Task σ κ → Prop
  | mk {ticket deadline due job job' stage stage'} (hj : job.Alike c job') (hst : stage.Alike stage') :
    Alike c ⟨ticket, job, deadline, due, stage⟩ ⟨ticket, job', deadline, due, stage'⟩

structure Task.Match (c : Catalog) (next next' : Task σ κ × State σ κ) : Prop where
  task : next.1.Alike c next'.1
  state : next.2 = next'.2

namespace Stage.Alike

theorem built {e e' : Errand} (h : e.Alike e') (context : ClusterContext) (outcome : Outcome κ) :
    (Stage.built e context outcome : Stage σ κ).Alike (.built e' context outcome) := by
  cases outcome with
  | ok client => exact .resolved h context client
  | error failure => exact .finished _

end Stage.Alike

namespace Task.Alike

variable {c : Catalog} {t t' : Task σ κ}

theorem goTo (h : t.Alike c t') {st st' : Stage σ κ} (hst : st.Alike st') : (t.goTo st).Alike c (t'.goTo st') := by
  obtain ⟨hj, -⟩ := h
  exact ⟨hj, hst⟩

theorem result?_eq (h : t.Alike c t') : t.result? = t'.result? := by
  obtain ⟨-, hst⟩ := h
  cases hst <;> rfl

theorem waits_eq (h : t.Alike c t') (s : State σ κ) : t.waits s = t'.waits s := by
  obtain ⟨-, hst⟩ := h
  cases hst <;> rfl

theorem isStuck_eq (h : t.Alike c t') (s : State σ κ) : t.isStuck s = t'.isStuck s := by
  obtain ⟨-, hst⟩ := h
  cases hst <;> rfl

theorem deadline_eq (h : t.Alike c t') : t.deadline = t'.deadline := by
  cases h
  rfl

/-! ## One step -/

theorem lookUp (h : t.Alike c t') (s : State σ κ) {e e' : Errand} (he : e.Alike e') (id : Option String) :
    (t.lookUp s e id).Alike c (t'.lookUp s e' id) := by
  unfold Task.lookUp
  cases s.registry.contexts.select id with
  | error failure => exact h.goTo (.finished _)
  | ok context => exact h.goTo (.resolving he _ _)

theorem arrive {g : Settings} (h : t.Alike g.catalog t') (s : State σ κ) :
    (t.arrive g s).Alike g.catalog (t'.arrive g s) := by
  obtain ⟨hj, hst⟩ := h
  unfold Task.arrive
  cases hj with
  | resolve context => exact lookUp ⟨.resolve context, hst⟩ s .handOver context
  | @execute p q q' hq =>
    simp only
    rw [hq.gate]
    cases ha : g.catalog.authorize p q'.kind q'.verb with
    | error failure => exact ⟨.execute hq, .finished _⟩
    | ok kind =>
      have he : (Errand.operate kind q).Alike (.operate kind q') :=
        .operate hq.verb (hq.effect kind (hq.gate.trans ha))
      simp only
      rw [hq.context, hq.deadline]
      exact lookUp ⟨.execute hq, hst⟩ s he _

theorem building (h : t.Alike c t') (s : State σ κ) {e e' : Errand} (he : e.Alike e') (context : ClusterContext)
    (slot : SlotId) (reply : Reply σ (Outcome κ)) :
    Match c (t.building s e context slot reply) (t'.building s e' context slot reply) := by
  obtain ⟨hj, -⟩ := h
  cases reply with
  | now outcome => exact ⟨⟨hj, .built he context outcome⟩, rfl⟩
  | later wait finish => exact ⟨⟨hj, .connecting he _ _ _⟩, rfl⟩
  | never => exact ⟨⟨hj, .connecting he _ _ _⟩, rfl⟩

theorem awaiting (h : t.Alike c t') (s : State σ κ) (what : String) (context : ClusterContext) (client : κ)
    (reply : Reply σ (Outcome Json)) :
    (t.awaiting s what context client reply).Alike c (t'.awaiting s what context client reply) := by
  obtain ⟨hj, -⟩ := h
  cases reply with
  | now outcome => exact ⟨hj, .answered _ _ _⟩
  | later wait finish => exact ⟨hj, .calling _ _ _ _⟩
  | never => exact ⟨hj, .calling _ _ _ _⟩

theorem operate (h : t.Alike c t') (g : Settings) (f : Fleet σ κ) (s : State σ κ) {kind : ResourceKind}
    {q q' : Request} (hverb : q.verb = q'.verb) (heffect : Effect.ofRequest kind q = Effect.ofRequest kind q')
    (context : ClusterContext) (client : κ) :
    Match c (t.operate g f s kind q context client) (t'.operate g f s kind q' context client) := by
  obtain ⟨hj, hst⟩ := h
  rw [operate_eq, operate_eq, heffect, hverb]
  cases Effect.ofRequest kind q' with
  | error failure => exact ⟨⟨hj, .answered _ _ _⟩, rfl⟩
  | ok e =>
    simp only [perform_eq]
    exact ⟨awaiting ⟨hj, hst⟩ _ _ context client _, rfl⟩

theorem abandon (h : t.Alike c t') (s : State σ κ) : Match c (t.abandon s) (t'.abandon s) := by
  obtain ⟨hj, hst⟩ := h
  cases hst with
  | resolving => exact ⟨⟨hj, .finished _⟩, rfl⟩
  | connecting => exact ⟨⟨hj, .finished _⟩, rfl⟩
  | calling => exact ⟨⟨hj, .answered _ _ _⟩, rfl⟩
  | arrived => exact ⟨⟨hj, .arrived⟩, rfl⟩
  | resolved he => exact ⟨⟨hj, .resolved he _ _⟩, rfl⟩
  | answered => exact ⟨⟨hj, .answered _ _ _⟩, rfl⟩
  | finished => exact ⟨⟨hj, .finished _⟩, rfl⟩

variable [DecidableEq κ] (f : Fleet σ κ)

theorem answer (h : t.Alike c t') (s : State σ κ) (context : ClusterContext) (client : κ) (outcome : Outcome Json) :
    Match c (t.answer s context client outcome) (t'.answer s context client outcome) := by
  cases outcome with
  | ok v => exact ⟨h.goTo (.finished _), rfl⟩
  | error failure => exact ⟨h.goTo (.finished _), rfl⟩

theorem advance {g : Settings} (h : t.Alike g.catalog t') (s : State σ κ) :
    Match g.catalog (t.advance g f s) (t'.advance g f s) := by
  have ha := h
  obtain ⟨hj, hst⟩ := h
  unfold Task.advance
  cases hst with
  | arrived => exact ⟨ha.arrive s, rfl⟩
  | resolving he context slot =>
    simp only
    cases s.registry.slots slot with
    | ready client => exact ⟨⟨hj, .resolved he context client⟩, rfl⟩
    | building => exact ⟨ha, rfl⟩
    | empty =>
      simp only [connect_eq]
      exact ha.building _ he context slot _
  | connecting he context slot finish =>
    cases finish with
    | none => exact ⟨ha, rfl⟩
    | some finish =>
      simp only [connected_eq]
      exact ⟨⟨hj, .built he context _⟩, rfl⟩
  | resolved he context client =>
    cases he with
    | handOver => exact ⟨⟨hj, .finished _⟩, rfl⟩
    | operate hverb heffect => exact ha.operate g f s hverb heffect context client
  | calling what context client finish =>
    cases finish with
    | none => exact ⟨ha, rfl⟩
    | some finish => exact ⟨⟨hj, .answered _ _ _⟩, rfl⟩
  | answered context client outcome => exact ha.answer s context client outcome
  | finished result => exact ⟨ha, rfl⟩

/-! ## A task alone -/

theorem run {g : Settings} (h : t.Alike g.catalog t') (n : Nat) (s : State σ κ) :
    t.run g f n s = t'.run g f n s := by
  induction n generalizing t t' s with
  | zero => simp only [Task.run, h.result?_eq]
  | succ n ih =>
    have hdrop : ∀ s, (t.abandon s).1.run g f n (t.abandon s).2 = (t'.abandon s).1.run g f n (t'.abandon s).2 := by
      intro s
      rw [(h.abandon s).state]
      exact ih (h.abandon s).task _
    have hnext : (t.advance g f s).1.run g f n (t.advance g f s).2 =
        (t'.advance g f s).1.run g f n (t'.advance g f s).2 := by
      rw [(h.advance f s).state]
      exact ih (h.advance f s).task _
    -- both tasks go the same way on, since they are done, wait, are stuck and are due alike
    simp only [Task.run, Task.isDue, h.result?_eq, h.waits_eq, h.isStuck_eq, h.deadline_eq, hdrop, hnext]

end Task.Alike

/-! ## Pools -/

structure Pool.Alike (c : Catalog) (p p' : Pool σ κ) : Prop where
  tasks : ∀ i : Nat, Option.Rel (Task.Alike c) p.tasks[i]? p'.tasks[i]?
  state : p.state = p'.state

namespace Pool.Alike

variable {c : Catalog} {p p' : Pool σ κ}

theorem ofJobs {jobs jobs' : List Job} (h : ∀ i : Nat, Option.Rel (Job.Alike c) jobs[i]? jobs'[i]?)
    (s : State σ κ) : Alike c (Pool.ofJobs jobs s) (Pool.ofJobs jobs' s) := by
  refine ⟨fun i => ?_, rfl⟩
  have hi := h i
  simp only [Pool.ofJobs, List.getElem?_mapIdx]
  generalize jobs[i]? = job at hi
  generalize jobs'[i]? = job' at hi
  cases hi with
  | none => exact .none
  | some hj => exact .some ⟨hj, .arrived⟩

theorem cases (h : p.Alike c p') (i : Nat) : (p.tasks[i]? = none ∧ p'.tasks[i]? = none) ∨
    ∃ t t', p.tasks[i]? = some t ∧ p'.tasks[i]? = some t' ∧ t.Alike c t' := by
  have hi := h.tasks i
  generalize p.tasks[i]? = task at hi
  generalize p'.tasks[i]? = task' at hi
  cases hi with
  | none => exact .inl ⟨rfl, rfl⟩
  | some ht => exact .inr ⟨_, _, rfl, rfl, ht⟩

theorem results_eq (h : p.Alike c p') : p.results = p'.results := by
  refine List.ext_getElem? fun i => ?_
  simp only [results, List.getElem?_map]
  rcases h.cases i with ⟨hi, hi'⟩ | ⟨t, t', hi, hi', ht⟩
  · rw [hi, hi']
  · rw [hi, hi', Option.map_some, Option.map_some, ht.result?_eq]

theorem set (h : p.Alike c p') (i : Nat) {next next' : Task σ κ × State σ κ} (hn : Task.Match c next next') :
    Alike c ⟨p.tasks.set i next.1, next.2⟩ ⟨p'.tasks.set i next'.1, next'.2⟩ := by
  refine ⟨fun j => ?_, hn.state⟩
  by_cases hij : i = j
  · subst hij
    simp only [List.getElem?_set_self']
    rcases h.cases i with ⟨hi, hi'⟩ | ⟨t, t', hi, hi', -⟩
    · rw [hi, hi']
      exact .none
    · rw [hi, hi']
      exact .some hn.task
  · simp only [List.getElem?_set_ne hij]
    exact h.tasks j

variable [DecidableEq κ] (f : Fleet σ κ)

theorem step {g : Settings} (h : p.Alike g.catalog p') (m : Move κ) :
    (p.step g f m).Alike g.catalog (p'.step g f m) := by
  have hstate := h.state
  cases m with
  | advance i =>
    rcases h.cases i with ⟨hi, hi'⟩ | ⟨t, t', hi, hi', ht⟩ <;> simp only [Pool.step, hi, hi', ← hstate]
    · exact h
    · exact h.set i (ht.advance f p.state)
  | abandon i =>
    rcases h.cases i with ⟨hi, hi'⟩ | ⟨t, t', hi, hi', ht⟩ <;> simp only [Pool.step, hi, hi', ← hstate]
    · exact h
    · exact h.set i (ht.abandon p.state)
  | invalidate id => exact ⟨h.tasks, by simp only [Pool.step, hstate]⟩
  | invalidateClient id client => exact ⟨h.tasks, by simp only [Pool.step, hstate]⟩
  | tick moment => exact ⟨h.tasks, by simp only [Pool.step, hstate]⟩

theorem run {g : Settings} (h : p.Alike g.catalog p') (moves : List (Move κ)) :
    (p.run g f moves).Alike g.catalog (p'.run g f moves) := by
  induction moves generalizing p p' with
  | nil => exact h
  | cons m moves ih => exact ih (h.step f m)

end Pool.Alike

/-! ## Nothing tells them apart -/

namespace Gateway

variable [DecidableEq κ]

/-- A request may stand in the place of another: alone it gives the same envelope and leaves the same
state, and so it does among any other jobs in every interleaving. -/
structure Indistinct (g : Settings) (f : Fleet σ κ) (p : Principal) (q q' : Request) : Prop where
  alone : ∀ s, execute g f p q s = execute g f p q' s
  among : ∀ before after s moves,
    let run (q : Request) := (Pool.ofJobs (before ++ .execute p q :: after) s).run g f moves
    (run q).results = (run q').results ∧ (run q).state = (run q').state

theorem indistinct_of_alike {g : Settings} (f : Fleet σ κ) {p : Principal} {q q' : Request}
    (h : q.Alike g.catalog p q') : Indistinct g f p q q' := by
  constructor
  · intro s
    have ht : (Task.start 0 (.execute p q) : Task σ κ).Alike g.catalog (Task.start 0 (.execute p q')) :=
      ⟨.execute h, .arrived⟩
    unfold execute Task.finish
    rw [ht.run f]
    rfl
  · intro before after s moves run
    have hjobs : ∀ i : Nat, Option.Rel (Job.Alike g.catalog) (before ++ .execute p q :: after)[i]?
        (before ++ .execute p q' :: after)[i]? := by
      intro i
      have hrefl : ∀ job : Option Job, Option.Rel (Job.Alike g.catalog) job job := by
        rintro (_ | job)
        · exact .none
        · exact .some (.refl g.catalog job)
      simp only [List.getElem?_append, List.getElem?_cons]
      split
      · exact hrefl _
      · split
        · exact .some (.execute h)
        · exact hrefl _
    have hpools := (Pool.Alike.ofJobs hjobs s).run f moves
    exact ⟨hpools.results_eq, hpools.state⟩

end Gateway

end ClusterGateway
