import ClusterGateway.Proofs.Gateway.Construction

/-!
# Effects from their start to their end

An effect begins in the move in which its task asks the fleet for it, and the answer is there in this
move, or in a later one in which the task comes back for it. No move but these two changes the world
for the task's effect, and a task begins one effect at most.
-/

namespace ClusterGateway

variable {σ κ : Type}

namespace Pool

section
variable [DecidableEq κ] (g : Settings) (f : Fleet σ κ) (p : Pool σ κ) (moves : List (Move κ)) (i : Nat)

structure Begins (n : Nat) (kind : ResourceKind) (context : ClusterContext) (client : κ) (e : Effect) : Prop where
  move : moves[n]? = some (.advance i)
  starts : ∃ t, (p.after g f moves n).tasks[i]? = some t ∧
    t.Starts g f (p.after g f moves n).state kind context client e
  world : (p.after g f moves (n + 1)).state.world =
    (e.start f kind context client (p.after g f moves n).state.world).2

/-- The effect that the task starts in move `n` comes to this outcome, in the same move or in a later
one. -/
inductive Completes (n : Nat) (kind : ResourceKind) (context : ClusterContext) (client : κ) (e : Effect) :
    Nat → Outcome Json → Prop
  | atOnce {outcome : Outcome Json} (hb : p.Begins g f moves i n kind context client e)
      (hr : (e.start f kind context client (p.after g f moves n).state.world).1 = .now outcome) :
      Completes n kind context client e n outcome
  | afterwards {m wait : Nat} {first : σ → Outcome Json × σ} (hb : p.Begins g f moves i n kind context client e)
      (hr : (e.start f kind context client (p.after g f moves n).state.world).1 = .later wait first)
      (hlt : n < m) (hm : moves[m]? = some (.advance i))
      (hw : (p.after g f moves (m + 1)).state.world = (first (p.after g f moves m).state.world).2) :
      Completes n kind context client e m (first (p.after g f moves m).state.world).1

structure Tracks (n : Nat) (t : Task σ κ) : Prop where
  pending : ∀ finish, t.stage.pending? = some finish → ∃ k kind context client e wait first, k < n ∧
    p.Begins g f moves i k kind context client e ∧
    (e.start f kind context client (p.after g f moves k).state.world).1 = .later wait first ∧
    finish = fun w => ((first w).1.map (e.conclude g.hidden kind), (first w).2)
  value : ∀ v, t.stage.value? = some v → ∃ k kind context client e m a,
    p.Completes g f moves i k kind context client e m (.ok a) ∧ e.conclude g.hidden kind a = v

end

section
variable [DecidableEq κ] {g : Settings} {f : Fleet σ κ} {p : Pool σ κ} {moves : List (Move κ)} {i n : Nat}

theorem Completes.begins {m : Nat} {kind : ResourceKind} {context : ClusterContext} {client : κ} {e : Effect}
    {outcome : Outcome Json} (h : p.Completes g f moves i n kind context client e m outcome) :
    p.Begins g f moves i n kind context client e := by
  cases h with
  | atOnce hb => exact hb
  | afterwards hb => exact hb

theorem begins_of_starts {t : Task σ κ} {kind : ResourceKind} {context : ClusterContext} {client : κ} {e : Effect}
    (hm : moves[n]? = some (.advance i)) (ht : (p.after g f moves n).tasks[i]? = some t)
    (hs : t.Starts g f (p.after g f moves n).state kind context client e) :
    p.Begins g f moves i n kind context client e :=
  ⟨hm, ⟨t, ht, hs⟩, by rw [after_advance hm ht]; exact hs.world⟩

namespace Tracks

variable {t : Task σ κ}

theorem mono (h : p.Tracks g f moves i n t) : p.Tracks g f moves i (n + 1) t := by
  refine ⟨fun finish hf => ?_, h.value⟩
  obtain ⟨k, kind, context, client, e, wait, first, hlt, hrest⟩ := h.pending finish hf
  exact ⟨k, kind, context, client, e, wait, first, Nat.lt_succ_of_lt hlt, hrest⟩

theorem advance (h : p.Tracks g f moves i n t) (hm : moves[n]? = some (.advance i))
    (ht : (p.after g f moves n).tasks[i]? = some t) :
    p.Tracks g f moves i (n + 1) (t.advance g f (p.after g f moves n).state).1 := by
  constructor
  · intro finish hf
    rcases Task.pending?_advance hf with hsame | ⟨kind, context, client, e, wait, first, hs, hreply, hfinish⟩
    · rw [hsame] at hf
      exact h.mono.pending finish hf
    · exact ⟨n, kind, context, client, e, wait, first, Nat.lt_succ_self n, begins_of_starts hm ht hs, hreply, hfinish⟩
  · intro v hv
    rcases Task.value?_advance hv with hsame | ⟨kind, context, client, e, a, hs, hreply, ha⟩ |
      ⟨finish, hpending, hanswer, hworld⟩
    · exact h.value v hsame
    · exact ⟨n, kind, context, client, e, n, a, .atOnce (begins_of_starts hm ht hs) hreply, ha⟩
    · -- the reply dates from move `k`, but what it comes to is read off the world of this move
      obtain ⟨k, kind, context, client, e, wait, first, hlt, hbegins, hreply, rfl⟩ := h.pending finish hpending
      obtain ⟨a, ha, hv⟩ := Checked.map_eq_ok_iff.mp hanswer
      have hw : (p.after g f moves (n + 1)).state.world = (first (p.after g f moves n).state.world).2 := by
        rw [after_advance hm ht]
        exact hworld
      exact ⟨k, kind, context, client, e, n, a, ha ▸ .afterwards hbegins hreply hlt hm hw, hv⟩

theorem abandon (h : p.Tracks g f moves i n t) (s : State σ κ) : p.Tracks g f moves i (n + 1) (t.abandon s).1 := by
  rcases t.abandon_stage s with hsame | ⟨hpending, hvalue⟩
  · rw [hsame]
    exact h.mono
  · constructor
    · intro finish hf
      rw [hpending] at hf
      cases hf
    · intro v hv
      rw [hvalue] at hv
      cases hv

end Tracks

theorem tracks_after (jobs : List Job) (s : State σ κ) (n : Nat) {t : Task σ κ}
    (ht : ((ofJobs jobs s).after g f moves n).tasks[i]? = some t) : (ofJobs jobs s).Tracks g f moves i n t := by
  refine after_induction (fun t ht => ?_) (fun _ _ h => h.mono) (fun _ _ hm hu h => h.advance hm hu)
    (fun _ _ h => h.abandon _) n ht
  obtain ⟨job, -, rfl⟩ := start_of_ofJobs ht
  exact ⟨(fun _ hf => by cases hf), (fun _ hv => by cases hv)⟩

theorem completes_of_finished (jobs : List Job) (s : State σ κ) {v : Json}
    (hv : ((ofJobs jobs s).run g f moves).results[i]? = some (some (.ok (.value v)))) :
    ∃ n kind context client e m a, (ofJobs jobs s).Completes g f moves i n kind context client e m (.ok a) ∧
      e.conclude g.hidden kind a = v := by
  obtain ⟨t, ht, hvalue⟩ := value?_of_finished hv
  exact (tracks_after jobs s moves.length ht).value v hvalue

/-! ## One effect for each task -/

theorem Begins.rank_le {kind : ResourceKind} {context : ClusterContext} {client : κ} {e : Effect}
    (h : p.Begins g f moves i n kind context client e) {k : Nat} (hk : n < k) {u : Task σ κ}
    (hu : (p.after g f moves k).tasks[i]? = some u) : u.stage.rank ≤ 2 := by
  obtain ⟨t, ht, ⟨q, hst, -⟩, -⟩ := h.starts
  have hle := rank_le_of_advance h.move ht hk hu
  have hlt := t.rank_advance g f (p.after g f moves n).state (by simp [Task.result?, hst])
    (by simp [Task.isStuck, Task.waits, hst])
  rw [hst] at hlt
  exact Nat.le_trans hle (Nat.le_of_lt_succ hlt)

theorem Begins.unique {m : Nat} {kind kind' : ResourceKind} {context context' : ClusterContext} {client client' : κ}
    {e e' : Effect} (h : p.Begins g f moves i n kind context client e)
    (h' : p.Begins g f moves i m kind' context' client' e') :
    n = m ∧ kind = kind' ∧ context = context' ∧ client = client' ∧ e = e' := by
  -- the start lowers the rank of its task for good
  have notBefore : ∀ {n m kind kind' context context' client client' e e'},
      p.Begins g f moves i n kind context client e → p.Begins g f moves i m kind' context' client' e' → ¬ n < m := by
    intro n m kind kind' context context' client client' e e' h h' hlt
    obtain ⟨t, ht, ⟨q, hst, -⟩, -⟩ := h'.starts
    have hle := h.rank_le hlt ht
    simp [hst, Stage.rank] at hle
  obtain rfl : n = m := by
    have h₁ := notBefore h h'
    have h₂ := notBefore h' h
    omega
  obtain ⟨t, ht, ⟨q, hst, hr⟩, -⟩ := h.starts
  obtain ⟨t', ht', ⟨q', hst', hr'⟩, -⟩ := h'.starts
  rw [ht] at ht'
  cases ht'
  rw [hst] at hst'
  cases hst'
  rw [hr] at hr'
  cases hr'
  exact ⟨rfl, rfl, rfl, rfl, rfl⟩

theorem Begins.request {jobs : List Job} {s : State σ κ} {kind : ResourceKind} {context : ClusterContext} {client : κ}
    {e : Effect} (h : (ofJobs jobs s).Begins g f moves i n kind context client e) :
    ∃ pr q, jobs[i]? = some (.execute pr q) ∧ g.catalog.authorize pr q.kind q.verb = .ok kind ∧
      Effect.ofRequest kind q = .ok e := by
  obtain ⟨t, ht, ⟨q, hst, hr⟩, -⟩ := h.starts
  have haccounts := accounts_after g f jobs s moves n ht
  obtain ⟨pr, hjob, ha⟩ := haccounts.serves.admitted kind q (by rw [hst]; rfl)
  have hjobs := haccounts.serves.job
  rw [haccounts.ticket, hjob] at hjobs
  exact ⟨pr, q, hjobs, ha, hr⟩

theorem Begins.notes {jobs : List Job} {s : State σ κ} {kind : ResourceKind} {context : ClusterContext} {client : κ}
    {e : Effect} (h : (ofJobs jobs s).Begins g f moves i n kind context client e) :
    (ofJobs jobs s).Notes g f moves n (e.event i kind context client) := by
  obtain ⟨t, ht, hs⟩ := h.starts
  have hticket := (accounts_after g f jobs s moves n ht).ticket
  refine ⟨[e.event i kind context client], ?_, List.mem_singleton_self _⟩
  rw [after_advance h.move ht, hs.journal, hticket]
  rfl

theorem begins_of_notes {jobs : List Job} {s : State σ κ} {ev : Event κ} (h : (ofJobs jobs s).Notes g f moves n ev)
    (ho : ev.isOperation = true) : ∃ i kind context client e, ev = e.event i kind context client ∧
      (ofJobs jobs s).Begins g f moves i n kind context client e := by
  obtain ⟨es, hj, he⟩ := h
  cases hm : moves[n]? with
  | none =>
    rw [after_succ_of_none g f _ moves hm] at hj
    rw [List.self_eq_append_left.mp hj] at he
    cases he
  | some m =>
    have hsucc := after_succ g f (ofJobs jobs s) moves hm
    have of_adds : ∀ {P : Event κ → Prop} {s' : State σ κ}, ((ofJobs jobs s).after g f moves (n + 1)).state = s' →
        ((ofJobs jobs s).after g f moves n).state.Adds P s' → P ev := by
      rintro P s' rfl hadds
      exact hadds.mem hj he ho
    rcases ((ofJobs jobs s).after g f moves n).step_cases g f m with
      ⟨i, t, rfl, ht, hs⟩ | ⟨i, t, rfl, ht, hs⟩ | ⟨s', hs, hevicts⟩
    · rcases t.advance_turns g f ((ofJobs jobs s).after g f moves n).state with hturn | ⟨hsame, -⟩
      · obtain ⟨kind, q, context, client, hst⟩ := of_adds (by rw [hsucc, hs]) hturn.2.2.adds
        rw [Task.advance_operating hst, Task.operate_eq] at hs
        cases hr : Effect.ofRequest kind q with
        | error failure =>
          rw [hr] at hs
          exact (of_adds (P := fun _ => False) (by rw [hsucc, hs]) (.same rfl)).elim
        | ok e =>
          simp only [hr, Task.perform_eq] at hs
          have hev : ev = e.event t.ticket kind context client :=
            of_adds (P := (· = e.event t.ticket kind context client)) (by rw [hsucc, hs]) (.one rfl fun _ => rfl)
          rw [(accounts_after g f jobs s moves n ht).ticket] at hev
          exact ⟨i, kind, context, client, e, hev, begins_of_starts hm ht (Task.starts_of_resolved hst hr)⟩
      · rw [hsame] at hs
        exact (of_adds (P := fun _ => False) (by rw [hsucc, hs]) (.same rfl)).elim
    · exact (of_adds (P := fun _ => False) (by rw [hsucc, hs]) (Task.adds_abandon _ t _)).elim
    · obtain ⟨es', hj', hev⟩ := hevicts.noted
      obtain ⟨slot, rfl⟩ : ∃ slot, ev = .evicted slot :=
        of_adds (by rw [hsucc, hs]) ⟨es', hj', fun e he _ => hev e he⟩
      cases ho

theorem begins_of_event {jobs : List Job} {s : State σ κ} {kind : ResourceKind} {context : ClusterContext} {client : κ}
    {e : Effect} (h : (ofJobs jobs s).Notes g f moves n (e.event i kind context client)) :
    ∃ kind context client e, (ofJobs jobs s).Begins g f moves i n kind context client e := by
  have ho : (e.event i kind context client).isOperation = true := by cases e <;> rfl
  obtain ⟨j, kind', context', client', e', he, hb⟩ := begins_of_notes h ho
  have hi : i = j := by
    cases e <;> cases e' <;> injection he
  exact ⟨kind', context', client', e', hi ▸ hb⟩

theorem begins_of_called {jobs : List Job} {s : State σ κ} {client : κ} {c : Call}
    (h : (ofJobs jobs s).Notes g f moves n (.called i client c)) :
    ∃ kind context, (ofJobs jobs s).Begins g f moves i n kind context client (.call c) := by
  obtain ⟨j, kind, context, client', e, he, hb⟩ := begins_of_notes h rfl
  cases e with
  | describe => cases he
  | call c' =>
    cases he
    exact ⟨kind, context, hb⟩

end

end Pool

end ClusterGateway
