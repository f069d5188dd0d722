import ClusterGateway.Proofs.Gateway.Freshness
import ClusterGateway.Proofs.Gateway.Keeping
import ClusterGateway.Proofs.Gateway.Stages

/-!
# No context is stuck

A slot is under construction only while some task carries the construction out: where it fails or is
dropped the slot is empty again, and an empty slot stays so until somebody calls for a client. So the
next to come to a slot that nobody works on calls for a client itself.
-/

namespace ClusterGateway

variable {σ κ : Type}

namespace Pool

/-! ## Constructions under way -/

/-- Every construction under way is carried out by a task. -/
def Attended (p : Pool σ κ) : Prop :=
  ∀ slot, p.state.registry.slots slot = .building → ∃ i, p.Builds i slot

theorem Builds.asks {p : Pool σ κ} {i : Nat} {slot : SlotId} (h : p.Builds i slot) : p.Asks i slot := by
  obtain ⟨t, ht, hb⟩ := Option.bind_eq_some_iff.mp h
  refine Option.bind_eq_some_iff.mpr ⟨t, ht, ?_⟩
  cases hst : t.stage with
  | connecting => rw [hst] at hb; exact hb
  | _ => rw [hst] at hb; cases hb

namespace Attended

variable {p p' : Pool σ κ}

theorem turn (h : p.Attended) {i : Nat} {t : Task σ κ} {next : Task σ κ × State σ κ} (ht : p.tasks[i]? = some t)
    (hn : t.Turns p.state next) : (⟨p.tasks.set i next.1, next.2⟩ : Pool σ κ).Attended := by
  have hi : i < p.tasks.length := (List.getElem?_eq_some_iff.mp ht).1
  intro slot hb
  rcases hn.2.2.building_cases hb with hst | ⟨hb, hst⟩
  · exact ⟨i, Option.bind_eq_some_iff.mpr ⟨next.1, List.getElem?_set_self hi, hst⟩⟩
  · -- whoever built the slot before is another task, and still does
    obtain ⟨j, hj⟩ := h slot hb
    obtain ⟨u, hu, hbu⟩ := Option.bind_eq_some_iff.mp hj
    have hij : i ≠ j := by
      rintro rfl
      rw [ht] at hu
      cases hu
      exact hst hbu
    exact ⟨j, Option.bind_eq_some_iff.mpr ⟨u, by rw [List.getElem?_set_ne hij, hu], hbu⟩⟩

theorem changes (h : p.Attended) {m : Move κ} (hm : p.Changes m p') : p'.Attended := by
  cases hm with
  | advanced ht hn => exact h.turn ht hn
  | abandoned ht hn => exact h.turn ht hn
  | _ => exact h

theorem after [DecidableEq κ] (h : p.Attended) (g : Settings) (f : Fleet σ κ) (moves : List (Move κ)) (n : Nat) :
    (p.after g f moves n).Attended :=
  after_of_step g f p moves h (fun q m hq => hq.changes (q.step_changes g f m)) n

theorem of_start? {f : Fleet σ κ} {first : ClusterContext} {named : List ClusterContext} {clock : Instant} {world : σ}
    {s : State σ κ} (h : State.start? f first named clock world = some (.ok s)) (jobs : List Job) :
    (ofJobs jobs s).Attended := by
  obtain ⟨contexts, client, -, hs, -⟩ := State.registry_of_start? h
  intro slot hb
  rw [show (ofJobs jobs s).state.registry = .start contexts client from hs, Registry.start] at hb
  simp only at hb
  split at hb <;> cases hb

theorem empty_of_idle (h : p.Attended) {slot : SlotId} (hclient : ∀ client, p.state.registry.slots slot ≠ .ready client)
    (hidle : ∀ i, ¬ p.Asks i slot) : p.state.registry.slots slot = .empty := by
  cases hs : p.state.registry.slots slot with
  | empty => rfl
  | building =>
    obtain ⟨i, hi⟩ := h slot hs
    exact absurd hi.asks (hidle i)
  | ready client => exact absurd hs (hclient client)

end Attended

/-! ## The next call -/

section
variable [DecidableEq κ] {g : Settings} {f : Fleet σ κ} {p : Pool σ κ} {moves : List (Move κ)}

theorem empty_of_quiet (ho : p.Orderly) {n m : Nat} (hnm : n ≤ m) {slot : SlotId}
    (he : (p.after g f moves n).state.registry.slots slot = .empty)
    (hq : ∀ k, n ≤ k → k < m → ¬ p.Notes g f moves k (.connecting slot)) :
    (p.after g f moves m).state.registry.slots slot = .empty := by
  induction m, hnm using Nat.le_induction with
  | base => exact he
  | succ m hnm ih =>
    obtain ⟨es, hj, hh⟩ := ho.extends_after g f moves (Nat.le_succ m)
    have hm := ih fun k hk hkm => hq k hk (Nat.lt_succ_of_lt hkm)
    refine hh.empty hm fun hmem => ?_
    exact hq m hnm (Nat.lt_succ_self m) ⟨es, hj, hmem⟩

theorem connects_of_asks (ho : p.Orderly) {m i : Nat} {slot : SlotId} (hm : moves[m]? = some (.advance i))
    (ha : (p.after g f moves m).Asks i slot) (he : (p.after g f moves m).state.registry.slots slot = .empty) :
    ∃ context, p.Connects g f moves i m context slot := by
  obtain ⟨t, ht, hs⟩ := Option.bind_eq_some_iff.mp ha
  cases hst : t.stage with
  | resolving errand context t' =>
    rw [hst] at hs
    cases hs
    exact ⟨context, connects_of_empty hm ht hst he⟩
  | connecting errand context t' finish =>
    rw [hst] at hs
    cases hs
    have hb := ((ho.after g f moves m).fits i t ht).building slot (by rw [hst]; rfl)
    rw [he] at hb
    cases hb
  | _ =>
    rw [hst] at hs
    cases hs

theorem connects_of_quiet {jobs : List Job} {s : State σ κ} {context : ClusterContext}
    (hcontext : context ∈ s.registry.contexts.all) {slot : SlotId} (hslot : slot.context = context.id) {n m i : Nat}
    (he : ((ofJobs jobs s).after g f moves n).state.registry.slots slot = .empty) (hnm : n ≤ m)
    (hq : ∀ k, n ≤ k → k < m → ¬ (ofJobs jobs s).Notes g f moves k (.connecting slot))
    (hm : moves[m]? = some (.advance i)) (ha : ((ofJobs jobs s).after g f moves m).Asks i slot) :
    (ofJobs jobs s).Connects g f moves i m context slot := by
  have ho : (ofJobs jobs s).Orderly := .ofJobs jobs s
  obtain ⟨context', hc⟩ := connects_of_asks ho hm ha (empty_of_quiet ho hnm he hq)
  obtain ⟨hcontext', hslot'⟩ := hc.owns
  rwa [Contexts.eq_of_id hcontext hcontext' (hslot.symm.trans hslot')]

theorem generation_of_quiet {n k : Nat} (hnk : n ≤ k) {id : String}
    (hq : ∀ l m, n ≤ l → l < k → moves[l]? = some m → ¬ (p.after g f moves l).Invalidates m id) :
    (p.after g f moves k).state.registry.generation id = (p.after g f moves n).state.registry.generation id := by
  induction k, hnk using Nat.le_induction with
  | base => rfl
  | succ k hnk ih =>
    rw [← ih fun l m hl hlk => hq l m hl (Nat.lt_succ_of_lt hlk)]
    cases hm : moves[k]? with
    | none => rw [after_succ_of_none g f p moves hm]
    | some m =>
      rw [after_succ g f p moves hm]
      by_contra hne
      exact hq k m hnk (Nat.lt_succ_self k) hm (invalidates_of_generation g f hne)

end

/-! ## A client for the asking -/

section
variable [DecidableEq κ] (g : Settings) (f : Fleet σ κ)

theorem resolve_of_empty {context : ClusterContext} {id : Option String} {s : State σ κ}
    (hid : s.registry.contexts.select id = .ok context)
    (he : s.registry.slots (s.registry.current context.id) = .empty) {outcome : Outcome κ} {w : σ}
    (hw : (f.connect context s.world).1.await? (f.connect context s.world).2 = some (outcome, w)) :
    Gateway.resolve g f id s = (some (outcome.map (.resolved context)),
      ({ s.later (f.connect context s.world).1.wait with world := w }.record
        (.connecting (s.registry.current context.id))).settle (s.registry.current context.id) outcome) := by
  rw [Gateway.resolve_eq_resolveWithin, Gateway.resolveWithin_eq, hid]
  simp only [State.fetch, he, Reply.awaitUntil_of_await? hw]
  rfl

/-- From the start on, whatever fails and whichever wait is given up: while the slot that a context is on has no
client and nobody asks for it, it is empty, and the first to come to it calls for a client, is handed what
comes of this and leaves the context cached with it. -/
theorem no_wedged_context {first : ClusterContext} {named : List ClusterContext} {clock : Instant} {world : σ}
    {s : State σ κ} (h : State.start? f first named clock world = some (.ok s)) (jobs : List Job)
    (moves : List (Move κ)) {n : Nat} {context : ClusterContext} (hcontext : context ∈ first :: named)
    (hclient : ∀ client, ¬ ((ofJobs jobs s).after g f moves n).Caches context.id client)
    (hidle : ∀ i, ¬ ((ofJobs jobs s).after g f moves n).Asks i
      (((ofJobs jobs s).after g f moves n).state.registry.current context.id)) :
    let p := (ofJobs jobs s).after g f moves
    (∀ slot : SlotId, slot.context = context.id → (p n).state.registry.generation context.id ≤ slot.generation →
      (p n).state.registry.slots slot = .empty ∧
      ∀ m i, n ≤ m → (∀ k, n ≤ k → k < m → ¬ (ofJobs jobs s).Notes g f moves k (.connecting slot)) →
        moves[m]? = some (.advance i) → (p m).Asks i slot →
        (ofJobs jobs s).Connects g f moves i m context slot ∧
        ∀ e client, (ofJobs jobs s).Constructs g f moves i m context slot e (.ok client) →
          (ofJobs jobs s).Receives g f moves i (e + 1) context client ∧
          ∀ k, e < k → (∀ l m', n ≤ l → l < k → moves[l]? = some m' → ¬ (p l).Invalidates m' context.id) →
            (p k).Caches context.id client) ∧
    ∀ id client w, (p n).state.registry.contexts.select id = .ok context →
      (f.connect context (p n).state.world).1.await? (f.connect context (p n).state.world).2 = some (.ok client, w) →
      let slot := (p n).state.registry.current context.id
      ∃ s', Gateway.resolve g f id (p n).state = (some (.ok (.resolved context client)), s') ∧
        s'.journal = .connected slot client :: .connecting slot :: (p n).state.journal ∧
        s'.registry.slots (s'.registry.current context.id) = .ready client := by
  intro p
  have ho : (ofJobs jobs s).Orderly := .ofJobs jobs s
  have hattended : (p n).Attended := (Attended.of_start? h jobs).after g f moves n
  have hhistory : Registry.History (.blank s.registry.contexts) (p n).state.journal (p n).state.registry :=
    (history_of_start? g f h jobs (moves.take n)).2
  have hmem : context ∈ s.registry.contexts.all := by
    obtain ⟨hfirst, hnamed⟩ := State.contexts_of_start? h
    rw [Contexts.all, hfirst, hnamed]
    exact hcontext
  have hempty : ∀ slot : SlotId, slot.context = context.id →
      (p n).state.registry.generation context.id ≤ slot.generation → (p n).state.registry.slots slot = .empty := by
    intro slot hslot hle
    rcases Nat.eq_or_lt_of_le hle with heq | hlt
    · obtain rfl : slot = (p n).state.registry.current context.id := by
        rw [Registry.current, heq, ← hslot]
      exact hattended.empty_of_idle hclient hidle
    · rw [← hslot] at hlt
      exact hhistory.empty_beyond hlt
  refine ⟨fun slot hslot hle => ⟨hempty slot hslot hle, ?_⟩, ?_⟩
  · intro m i hnm hq hm ha
    refine ⟨connects_of_quiet hmem hslot (hempty slot hslot hle) hnm hq hm ha, fun e client hcons => ⟨?_, ?_⟩⟩
    · obtain ⟨⟨t, errand, ht, hst⟩, -⟩ := hcons.ended
      exact receives_of_resolved jobs s ht hst
    · intro k hk hquiet
      have hme : m ≤ e := hcons.le
      -- the context has not moved since, and was not on a later slot then
      have hgeneration := generation_of_quiet (by omega : n ≤ k) hquiet
      have hknown := hcons.connects.known ho
      have hlater := (ho.extends_after g f moves (by omega : m ≤ k)).generation_le context.id
      rw [hslot] at hknown
      have hcurrent : (p k).state.registry.current context.id = slot := by
        obtain ⟨id, generation⟩ := slot
        obtain rfl : id = context.id := hslot
        have heq : (p k).state.registry.generation context.id = generation :=
          Nat.le_antisymm (hgeneration ▸ hle) (Nat.le_trans hknown hlater)
        rw [Registry.current, heq]
      rw [Caches, hcurrent]
      exact hcons.ready hk
  · intro id client w hid hw slot
    refine ⟨_, resolve_of_empty g f hid (hempty slot rfl (Nat.le_refl _)) hw, rfl, ?_⟩
    exact State.slots_settle _ slot _

theorem no_wedged_context_of_abandoned :
    let g : Settings := ⟨⟨[], rfl⟩, ⟨[]⟩, none⟩
    let f := Simulated.fleet .echo
    let first : ClusterContext := ⟨"default", .inCluster⟩
    let staging : ClusterContext := ⟨"staging", .inCluster⟩
    let world : Simulated.World := { Simulated.World.empty with slowConnect := true }
    let new : Simulated.Client := ⟨"staging", 2⟩
    let slot : SlotId := ⟨"staging", 0⟩
    let s : State Simulated.World Simulated.Client :=
      ⟨.start ⟨first, [staging], by decide⟩ ⟨"default", 1⟩, { world with built := 1 }, 0,
        [.connected ⟨"default", 0⟩ ⟨"default", 1⟩, .connecting ⟨"default", 0⟩]⟩
    let jobs : List Job := [.resolve (some "staging"), .resolve (some "staging")]
    let moves : List (Move Simulated.Client) :=
      [.advance 0, .advance 0, .abandon 0, .advance 1, .advance 1, .advance 1]
    let p := (ofJobs jobs s).after g f moves
    State.start? f first [staging] 0 world = some (.ok s) ∧ staging ∈ [first, staging] ∧
      (p 2).Builds 0 slot ∧ (p 3).state.registry.current "staging" = slot ∧
      (∀ client, ¬ (p 3).Caches "staging" client) ∧ (∀ i, ¬ (p 3).Asks i slot) ∧
      (ofJobs jobs s).Connects g f moves 1 4 staging slot ∧
      (ofJobs jobs s).Constructs g f moves 1 4 staging slot 5 (.ok new) ∧
      (ofJobs jobs s).Receives g f moves 1 6 staging new ∧ (p 6).Caches "staging" new := by
  intro g f first staging world new slot s jobs moves p
  have hs : State.start? f first [staging] 0 world = some (.ok s) := rfl
  have hclient : ∀ client, ¬ (p 3).Caches "staging" client := by
    intro client hc
    have he : (p 3).state.registry.slots ((p 3).state.registry.current "staging") = .empty := by decide +kernel
    rw [Caches, he] at hc
    cases hc
  have hidle : ∀ i, ¬ (p 3).Asks i slot := by
    intro i ha
    obtain ⟨t, ht, hslot⟩ := Option.bind_eq_some_iff.mp ha
    have hall : ∀ t ∈ (p 3).tasks, t.stage.slot? ≠ some slot := by decide +kernel
    exact hall t (List.mem_of_getElem? ht) hslot
  have hquiet : ∀ k, 3 ≤ k → k < 4 → ¬ (ofJobs jobs s).Notes g f moves k (.connecting slot) := by
    intro k hk hlt
    obtain rfl : k = 3 := by omega
    decide +kernel
  have hmem : staging ∈ [first, staging] := by simp
  obtain ⟨hcall, -⟩ := no_wedged_context g f hs jobs moves hmem hclient hidle
  obtain ⟨-, hnext⟩ := hcall slot rfl (by decide +kernel)
  obtain ⟨hc, hend⟩ := hnext 4 1 (by decide) hquiet rfl (by decide +kernel)
  have hreply : (f.connect staging (p 4).state.world).1 = .later 0 (Simulated.build staging) := rfl
  have htask : (p 5).tasks[1]? =
      some ⟨1, jobs[1], none, 0, .connecting .handOver staging slot (some (Simulated.build staging))⟩ := rfl
  have hcons : (ofJobs jobs s).Constructs g f moves 1 4 staging slot 5 (.ok new) :=
    .afterwards hc hreply (by decide) rfl htask rfl
  obtain ⟨hreceives, hcaches⟩ := hend 5 new hcons
  refine ⟨hs, hmem, by decide +kernel, by decide +kernel, hclient, hidle, hc, hcons, hreceives, ?_⟩
  refine hcaches 6 (by decide) fun l m hl hlt hm hi => ?_
  have hlast : (p 6).state.registry.generation staging.id = 0 := by decide +kernel
  have hlater := generation_lt_after hm hi hlt
  rw [hlast] at hlater
  exact Nat.not_lt_zero _ hlater

end

end Pool

end ClusterGateway
