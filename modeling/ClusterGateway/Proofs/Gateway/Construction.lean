import ClusterGateway.Proofs.Gateway.SingleFlight
import ClusterGateway.Proofs.Gateway.Steps

/-!
# Constructions in a run

A construction is the call for a client that a task makes in one move, with what this call comes to
there and then or in a later move. Clients come into slots in no other way, so each client in a slot
can be traced to the call that it came from.
-/

namespace ClusterGateway

variable {σ κ : Type}

def Stage.context? : Stage σ κ → Option ClusterContext
  | .resolving _ context _ => some context
  | .connecting _ context _ _ => some context
  | .resolved _ context _ => some context
  | .calling _ context _ _ => some context
  | .answered context _ _ => some context
  | .finished (.ok (.resolved context _)) => some context
  | _ => none

namespace Pool

/-- The task has been handed the client of the context. -/
def Resolves (p : Pool σ κ) (i : Nat) (context : ClusterContext) (client : κ) : Prop :=
  ∃ t, p.tasks[i]? = some t ∧ t.stage.context? = some context ∧ t.stage.client? = some client

instance [DecidableEq κ] (p : Pool σ κ) (i : Nat) (context : ClusterContext) (client : κ) :
    Decidable (p.Resolves i context client) :=
  decidable_of_iff
    (p.tasks[i]?.any fun t => decide (t.stage.context? = some context ∧ t.stage.client? = some client))
    (by simp only [Resolves, Option.any_eq_true, decide_eq_true_eq])

theorem length_after [DecidableEq κ] (g : Settings) (f : Fleet σ κ) (p : Pool σ κ) (moves : List (Move κ)) (n : Nat) :
    (p.after g f moves n).tasks.length = p.tasks.length := by
  refine after_of_step (P := fun q => q.tasks.length = p.tasks.length) g f p moves rfl (fun q m hq => ?_) n
  rcases q.step_cases g f m with ⟨i, t, -, -, hs⟩ | ⟨i, t, -, -, hs⟩ | ⟨s, hs, -⟩
  · rw [hs, List.length_set, hq]
  · rw [hs, List.length_set, hq]
  · rw [hs, hq]

/-! ## Calls for clients -/

section
variable [DecidableEq κ] (g : Settings) (f : Fleet σ κ) (p : Pool σ κ) (moves : List (Move κ))

def Notes (n : Nat) (e : Event κ) : Prop :=
  ∃ es, (p.after g f moves (n + 1)).state.journal = es ++ (p.after g f moves n).state.journal ∧ e ∈ es

instance (n : Nat) (e : Event κ) : Decidable (p.Notes g f moves n e) :=
  let old := (p.after g f moves n).state.journal
  let new := (p.after g f moves (n + 1)).state.journal
  decidable_of_iff (old <:+ new ∧ e ∈ new.take (new.length - old.length)) <| by
    constructor
    · rintro ⟨⟨es, hj⟩, he⟩
      refine ⟨es, hj.symm, ?_⟩
      simpa [new, ← hj] using he
    · rintro ⟨es, hj, he⟩
      refine ⟨⟨es, hj.symm⟩, ?_⟩
      simpa [old, new, hj] using he

/-- In this move the task, which has read the slot, calls for a client of its context. -/
structure Connects (i n : Nat) (context : ClusterContext) (slot : SlotId) : Prop where
  move : moves[n]? = some (.advance i)
  stage : ∃ t errand, (p.after g f moves n).tasks[i]? = some t ∧ t.stage = .resolving errand context slot
  called : (p.after g f moves (n + 1)).state.world = (f.connect context (p.after g f moves n).state.world).2
  noted : p.Notes g f moves n (.connecting slot)

/-- The call for a client that the task makes in move `n` comes to this outcome, in the same move or
in a later one, if the task has gone on waiting for it. -/
inductive Constructs (i n : Nat) (context : ClusterContext) (slot : SlotId) : Nat → Outcome κ → Prop
  | atOnce {outcome : Outcome κ} (hc : p.Connects g f moves i n context slot)
      (hr : (f.connect context (p.after g f moves n).state.world).1 = .now outcome) :
      Constructs i n context slot n outcome
  | afterwards {m wait : Nat} {finish : σ → Outcome κ × σ} {t : Task σ κ} {errand : Errand}
      (hc : p.Connects g f moves i n context slot)
      (hr : (f.connect context (p.after g f moves n).state.world).1 = .later wait finish)
      (hlt : n < m) (hm : moves[m]? = some (.advance i)) (ht : (p.after g f moves m).tasks[i]? = some t)
      (hst : t.stage = .connecting errand context slot (some finish)) :
      Constructs i n context slot m (finish (p.after g f moves m).state.world).1

/-- From this moment on the task has the client of the context, and returns it where it asks for
nothing else. -/
structure Receives (i n : Nat) (context : ClusterContext) (client : κ) : Prop where
  handed : (p.after g f moves n).Resolves i context client
  returned : ∀ t id, p.tasks[i]? = some t → t.job = .resolve id → ∀ k, n ≤ k →
    (p.after g f moves k).Resolves i context client

def Expects (i n : Nat) (context : ClusterContext) (slot : SlotId) (finish : Option (σ → Outcome κ × σ)) : Prop :=
  ∃ b, b < n ∧ p.Connects g f moves i b context slot ∧ ∀ fin, finish = some fin →
    ∃ wait, (f.connect context (p.after g f moves b).state.world).1 = .later wait fin

end

section
variable [DecidableEq κ] {g : Settings} {f : Fleet σ κ} {p : Pool σ κ} {moves : List (Move κ)}

theorem getElem?_after_advance {n i : Nat} {t : Task σ κ} (hm : moves[n]? = some (.advance i))
    (ht : (p.after g f moves n).tasks[i]? = some t) :
    (p.after g f moves (n + 1)).tasks[i]? = some (t.advance g f (p.after g f moves n).state).1 := by
  rw [after_advance hm ht, List.getElem?_set_self (List.getElem?_eq_some_iff.mp ht).1]

theorem stemsFrom_of_notes {n : Nat} {e : Event κ} (h : p.Notes g f moves n e) :
    (∃ (i : Nat) (t : Task σ κ), (p.after g f moves n).tasks[i]? = some t ∧
      e.StemsFrom t.ticket (p.after g f moves n).state t.stage) ∨ ∃ slot, e = .evicted slot := by
  obtain ⟨es, hj, he⟩ := h
  have noted : ∀ es', (p.after g f moves (n + 1)).state.journal = es' ++ (p.after g f moves n).state.journal →
      e ∈ es' := by
    intro es' hj'
    obtain rfl : es = es' := List.append_cancel_right (hj.symm.trans hj')
    exact he
  have turned : ∀ {t : Task σ κ} {next : Task σ κ × State σ κ}, (p.after g f moves (n + 1)).state = next.2 →
      t.Turns (p.after g f moves n).state next ∨ next = (t, (p.after g f moves n).state) →
      e.StemsFrom t.ticket (p.after g f moves n).state t.stage := by
    rintro t next hs (hturn | rfl)
    · obtain ⟨es', hj', hstems⟩ := hturn.2.2.notes
      exact hstems e (noted es' (by rw [hs]; exact hj'))
    · have := noted [] (by rw [hs]; rfl)
      cases this
  cases hm : moves[n]? with
  | none =>
    have := noted [] (by rw [after_succ_of_none g f p moves hm]; rfl)
    cases this
  | some m =>
    have hsucc := after_succ g f p moves hm
    rcases (p.after g f moves n).step_cases g f m with ⟨i, t, -, ht, hs⟩ | ⟨i, t, -, ht, hs⟩ | ⟨s, hs, hevicts⟩
    · refine .inl ⟨i, t, ht, turned (by rw [hsucc, hs]) ?_⟩
      exact (t.advance_turns g f _).imp_right And.left
    · refine .inl ⟨i, t, ht, turned (by rw [hsucc, hs]) ?_⟩
      exact (t.abandon_turns _).imp_right And.left
    · obtain ⟨es', hj', hev⟩ := hevicts.noted
      exact .inr (hev e (noted es' (by rw [hsucc, hs]; exact hj')))

theorem empty_of_notes {n : Nat} {slot : SlotId} (h : p.Notes g f moves n (.connecting slot)) :
    (p.after g f moves n).state.registry.slots slot = .empty := by
  rcases stemsFrom_of_notes h with ⟨i, t, -, hstems⟩ | ⟨t, ht⟩
  · exact (hstems.connecting slot rfl).2
  · cases ht

theorem connects_of_empty {n i : Nat} {t : Task σ κ} {errand : Errand} {context : ClusterContext} {slot : SlotId}
    (hm : moves[n]? = some (.advance i)) (ht : (p.after g f moves n).tasks[i]? = some t)
    (hst : t.stage = .resolving errand context slot)
    (he : (p.after g f moves n).state.registry.slots slot = .empty) :
    p.Connects g f moves i n context slot := by
  have hsucc := after_advance hm ht
  rw [Task.advance_resolving g f hst he] at hsucc
  have hbuilding := t.building_called ({ (p.after g f moves n).state with
    world := (f.connect context (p.after g f moves n).state.world).2 }.record (.connecting slot)) errand context slot
    (f.connect context (p.after g f moves n).state.world).1
  obtain ⟨hworld, es, hj⟩ := hbuilding
  refine ⟨hm, ⟨t, errand, ht, hst⟩, by rw [hsucc]; exact hworld, es ++ [.connecting slot], ?_, by simp⟩
  rw [hsucc, List.append_assoc]
  exact hj

theorem Expects.later {i n : Nat} {context : ClusterContext} {slot : SlotId} {finish : Option (σ → Outcome κ × σ)}
    (h : p.Expects g f moves i n context slot finish) : p.Expects g f moves i (n + 1) context slot finish := by
  obtain ⟨b, hb, hrest⟩ := h
  exact ⟨b, Nat.lt_succ_of_lt hb, hrest⟩

theorem expects_of_connecting (jobs : List Job) (s : State σ κ) (n : Nat) {i : Nat} {t : Task σ κ} {errand : Errand}
    {context : ClusterContext} {slot : SlotId} {finish : Option (σ → Outcome κ × σ)}
    (ht : ((ofJobs jobs s).after g f moves n).tasks[i]? = some t)
    (hst : t.stage = .connecting errand context slot finish) :
    (ofJobs jobs s).Expects g f moves i n context slot finish := by
  refine after_induction (P := fun n t => ∀ errand context slot finish,
    t.stage = .connecting errand context slot finish → (ofJobs jobs s).Expects g f moves i n context slot finish)
    ?_ ?_ ?_ ?_ n ht errand context slot finish hst
  · intro t ht errand context slot finish hst
    obtain ⟨job, -, rfl⟩ := start_of_ofJobs ht
    cases hst
  · intro n t ih errand context slot finish hst
    exact (ih errand context slot finish hst).later
  · intro n t hm ht ih errand context slot finish hst
    -- a task is at this stage because it has just called, or because it was there before
    rcases Task.advance_connecting g f hst with hsame | ⟨hresolving, he, hreply⟩
    · rw [hsame] at hst
      exact (ih errand context slot finish hst).later
    · exact ⟨n, Nat.lt_succ_self n, connects_of_empty hm ht hresolving he, hreply⟩
  · intro n t ih errand context slot finish hst
    rcases t.abandon_cases ((ofJobs jobs s).after g f moves n).state with hsame | ⟨-, -, herrand⟩
    · rw [hsame] at hst
      exact (ih errand context slot finish hst).later
    · rw [hst] at herrand
      cases herrand

/-! ## Clients that are handed over -/

omit [DecidableEq κ] in
theorem returned_kept (i : Nat) (context : ClusterContext) (client : κ) :
    Kept fun j (t : Task σ κ) (_ : State σ κ) => j = i →
      t.stage = .resolved .handOver context client ∨ t.stage = .finished (.ok (.resolved context client)) where
  grows h _ := h
  turns h hn _ hi := .inr (hn.2.2.returned_of_handed (h hi))

theorem receives_of_resolved (jobs : List Job) (s : State σ κ) {n i : Nat} {t : Task σ κ} {errand : Errand}
    {context : ClusterContext} {client : κ} (ht : ((ofJobs jobs s).after g f moves n).tasks[i]? = some t)
    (hst : t.stage = .resolved errand context client) : (ofJobs jobs s).Receives g f moves i n context client := by
  refine ⟨⟨t, ht, by rw [hst]; rfl, by rw [hst]; rfl⟩, fun u id hu hjob k hk => ?_⟩
  obtain ⟨job, hjobs, rfl⟩ := start_of_ofJobs hu
  have haccounts := accounts_after g f jobs s moves n ht
  have herrand : errand = .handOver := by
    cases errand with
    | handOver => rfl
    | operate kind q =>
      obtain ⟨pr, hexecute, -⟩ := haccounts.serves.admitted kind q (by rw [hst]; rfl)
      have hsame := haccounts.serves.job
      rw [haccounts.ticket, hjobs, hexecute, show job = .resolve id from hjob] at hsame
      cases hsame
  subst herrand
  have heach : ((ofJobs jobs s).after g f moves n).Each fun j (t : Task σ κ) _ => j = i →
      t.stage = .resolved .handOver context client ∨ t.stage = .finished (.ok (.resolved context client)) := by
    rintro j v hv rfl
    rw [ht] at hv
    cases hv
    exact .inl hst
  have hlater := heach.run (returned_kept i context client) ((Orderly.ofJobs jobs s).after g f moves n) g f
    ((moves.take k).drop n)
  rw [← after_of_le g f _ moves hk] at hlater
  have hi : i < ((ofJobs jobs s).after g f moves k).tasks.length := by
    rw [length_after, ← length_after g f _ moves n]
    exact (List.getElem?_eq_some_iff.mp ht).1
  have hv := List.getElem?_eq_getElem hi
  rcases hlater i _ hv rfl with hst | hst
  · exact ⟨_, hv, by rw [hst]; rfl, by rw [hst]; rfl⟩
  · exact ⟨_, hv, by rw [hst]; rfl, by rw [hst]; rfl⟩

/-! ## Where clients come from -/

theorem constructs_of_ready (jobs : List Job) (s : State σ κ) {n : Nat} {slot : SlotId} {client : κ}
    (h : ((ofJobs jobs s).after g f moves (n + 1)).state.registry.slots slot = .ready client) :
    ((ofJobs jobs s).after g f moves n).state.registry.slots slot = .ready client ∨
      ∃ i b context, (ofJobs jobs s).Constructs g f moves i b context slot n (.ok client) := by
  cases hm : moves[n]? with
  | none =>
    rw [after_succ_of_none g f _ moves hm] at h
    exact .inl h
  | some m =>
    rw [after_succ g f _ moves hm] at h
    rcases ((ofJobs jobs s).after g f moves n).step_cases g f m with
      ⟨i, t, rfl, ht, hs⟩ | ⟨i, t, rfl, ht, hs⟩ | ⟨s', hs, hevicts⟩
    · rw [hs] at h
      rcases t.advance_turns g f ((ofJobs jobs s).after g f moves n).state with hturn | ⟨hsame, -⟩
      · rcases hturn.2.2.ready_cases h with hr | ⟨errand, context, hst', ⟨hst, he⟩ | ⟨finish, hst⟩⟩
        · exact .inl hr
        · refine .inr ⟨i, n, context, .atOnce (connects_of_empty hm ht hst he) ?_⟩
          rw [Task.advance_resolving g f hst he] at hst'
          exact Task.eq_now_of_building hst'
        · obtain ⟨b, hb, hc, hreply⟩ := expects_of_connecting jobs s n ht hst
          cases finish with
          | none =>
            simp only [Task.advance, hst] at hst'
            cases hst'
          | some fin =>
            obtain ⟨wait, hr⟩ := hreply fin rfl
            simp only [Task.advance, hst, Task.connected_eq, Task.goTo] at hst'
            rw [← Stage.eq_ok_of_built hst']
            exact .inr ⟨i, b, context, .afterwards hc hr hb hm ht hst⟩
      · rw [hsame] at h
        exact .inl h
    · rw [hs] at h
      exact .inl (t.ready_of_abandon _ h)
    · rw [hs, hevicts.slots] at h
      exact .inl h

theorem origin_of_ready (jobs : List Job) (s : State σ κ) (n : Nat) {slot : SlotId} {client : κ}
    (h : ((ofJobs jobs s).after g f moves n).state.registry.slots slot = .ready client) :
    s.registry.slots slot = .ready client ∨
      ∃ i b context m, m < n ∧ (ofJobs jobs s).Constructs g f moves i b context slot m (.ok client) := by
  induction n with
  | zero => exact .inl h
  | succ n ih =>
    rcases constructs_of_ready jobs s h with hr | ⟨i, b, context, hc⟩
    · rcases ih hr with hs | ⟨i, b, context, m, hm, hc⟩
      · exact .inl hs
      · exact .inr ⟨i, b, context, m, Nat.lt_succ_of_lt hm, hc⟩
    · exact .inr ⟨i, b, context, n, Nat.lt_succ_self n, hc⟩

/-! ## From the call to its end -/

theorem rank_le_of_le {i a b : Nat} (hab : a ≤ b) {u : Task σ κ} (hu : (p.after g f moves b).tasks[i]? = some u) :
    ∃ t, (p.after g f moves a).tasks[i]? = some t ∧ u.stage.rank ≤ t.stage.rank := by
  induction b, hab using Nat.le_induction generalizing u with
  | base => exact ⟨u, hu, Nat.le_refl _⟩
  | succ b hab ih =>
    cases hm : moves[b]? with
    | none =>
      rw [after_succ_of_none g f p moves hm] at hu
      exact ih hu
    | some m =>
      rw [after_succ g f p moves hm] at hu
      rcases getElem?_step g f hu with hv | ⟨v, hv, -, rfl⟩ | ⟨v, hv, -, rfl⟩
      · exact ih hv
      · obtain ⟨t, ht, hle⟩ := ih hv
        exact ⟨t, ht, Nat.le_trans (v.rank_advance_le _ g f) hle⟩
      · obtain ⟨t, ht, hle⟩ := ih hv
        exact ⟨t, ht, Nat.le_trans (v.rank_abandon_le _) hle⟩

theorem rank_le_of_advance {i n k : Nat} {t u : Task σ κ} (hm : moves[n]? = some (.advance i))
    (ht : (p.after g f moves n).tasks[i]? = some t) (hk : n < k) (hu : (p.after g f moves k).tasks[i]? = some u) :
    u.stage.rank ≤ (t.advance g f (p.after g f moves n).state).1.stage.rank := by
  obtain ⟨v, hv, hle⟩ := rank_le_of_le (Nat.succ_le_of_lt hk) hu
  rw [getElem?_after_advance hm ht] at hv
  exact Option.some.inj hv ▸ hle

theorem Connects.rank_le {i n : Nat} {context : ClusterContext} {slot : SlotId}
    (h : p.Connects g f moves i n context slot) {k : Nat} (hk : n < k) {u : Task σ κ}
    (hu : (p.after g f moves k).tasks[i]? = some u) : u.stage.rank ≤ 4 := by
  obtain ⟨t, errand, ht, hst⟩ := h.stage
  have hle := rank_le_of_advance h.move ht hk hu
  rw [Task.advance_resolving g f hst (empty_of_notes h.noted)] at hle
  exact Nat.le_trans hle (Task.rank_building ..)

theorem Connects.known (ho : p.Orderly) {i n : Nat} {context : ClusterContext} {slot : SlotId}
    (h : p.Connects g f moves i n context slot) :
    slot.generation ≤ (p.after g f moves n).state.registry.generation slot.context := by
  obtain ⟨t, errand, ht, hst⟩ := h.stage
  exact ((ho.after g f moves n).fits i t ht).known slot (by rw [hst]; rfl)

theorem Connects.unique {i n m : Nat} {context context' : ClusterContext} {slot slot' : SlotId}
    (h : p.Connects g f moves i n context slot) (h' : p.Connects g f moves i m context' slot') :
    n = m ∧ context = context' ∧ slot = slot' := by
  -- the call lowers the rank of its task for good
  have notBefore : ∀ {n m context context' slot slot'}, p.Connects g f moves i n context slot →
      p.Connects g f moves i m context' slot' → ¬ n < m := by
    intro n m context context' slot slot' h h' hlt
    obtain ⟨t, errand, ht, hst⟩ := h'.stage
    have hle := h.rank_le hlt ht
    simp [hst, Stage.rank] at hle
  obtain rfl : n = m := by
    have h₁ := notBefore h h'
    have h₂ := notBefore h' h
    omega
  obtain ⟨t, errand, ht, hst⟩ := h.stage
  obtain ⟨t', errand', ht', hst'⟩ := h'.stage
  rw [ht] at ht'
  cases ht'
  rw [hst] at hst'
  cases hst'
  exact ⟨rfl, rfl, rfl⟩

namespace Constructs

variable {i n m : Nat} {context : ClusterContext} {slot : SlotId} {outcome : Outcome κ}

theorem connects (h : p.Constructs g f moves i n context slot m outcome) : p.Connects g f moves i n context slot := by
  cases h with
  | atOnce hc => exact hc
  | afterwards hc => exact hc

theorem le (h : p.Constructs g f moves i n context slot m outcome) : n ≤ m := by
  cases h with
  | atOnce => exact Nat.le_refl _
  | afterwards _ _ hlt => exact Nat.le_of_lt hlt

theorem ended (h : p.Constructs g f moves i n context slot m outcome) :
    (∃ t errand, (p.after g f moves (m + 1)).tasks[i]? = some t ∧ t.stage = .built errand context outcome) ∧
      (p.after g f moves (m + 1)).state.registry.slots slot = .ofOutcome outcome := by
  cases h with
  | atOnce hc hr =>
    obtain ⟨t, errand, ht, hst⟩ := hc.stage
    have hnext := getElem?_after_advance hc.move ht
    have hafter := after_advance hc.move ht
    rw [Task.advance_resolving g f hst (empty_of_notes hc.noted), hr] at hnext hafter
    refine ⟨⟨_, errand, hnext, rfl⟩, ?_⟩
    rw [hafter]
    exact State.slots_settle _ slot outcome
  | @afterwards _ wait finish t errand hc hr hlt hm ht hst =>
    have hnext := getElem?_after_advance hm ht
    have hafter := after_advance hm ht
    simp only [Task.advance, hst, Task.connected_eq] at hnext hafter
    refine ⟨⟨_, errand, hnext, rfl⟩, ?_⟩
    rw [hafter]
    exact State.slots_settle _ slot _

theorem ready {jobs : List Job} {s : State σ κ} {client : κ}
    (h : (ofJobs jobs s).Constructs g f moves i n context slot m (.ok client)) {k : Nat} (hk : m < k) :
    ((ofJobs jobs s).after g f moves k).state.registry.slots slot = .ready client :=
  ((Orderly.ofJobs jobs s).extends_after g f moves (Nat.succ_le_of_lt hk)).ready h.ended.2

theorem builds {jobs : List Job} {s : State σ κ} (h : (ofJobs jobs s).Constructs g f moves i n context slot m outcome)
    {k : Nat} (hk : n < k) (hkm : k ≤ m) : ((ofJobs jobs s).after g f moves k).Builds i slot := by
  cases h with
  | atOnce => omega
  | @afterwards _ wait finish t errand hc hr hlt hm ht hst =>
    -- ranks only fall, and the task has the same one after its call and at the end
    obtain ⟨u, hu, hle⟩ := rank_le_of_le hkm ht
    have hge := hc.rank_le hk hu
    rw [hst] at hle
    obtain ⟨errand', context', slot', finish', hsu⟩ := Stage.connecting_of_rank hle hge
    obtain ⟨b, -, hc', -⟩ := expects_of_connecting jobs s k hu hsu
    obtain ⟨-, -, rfl⟩ := hc.unique hc'
    simp [Builds, hu, hsu, Stage.building?]

end Constructs

end

end Pool

end ClusterGateway
