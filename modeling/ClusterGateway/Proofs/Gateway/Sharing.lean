import ClusterGateway.Proofs.Gateway.Recovery

/-!
# Whoever waits for a construction

While a slot is under construction the other tasks that ask for it stay where they are. If a client comes
of it they find it there, each with its next step. If not, they find the slot empty, and the first of
them to go on calls for a client itself.
-/

namespace ClusterGateway

variable {σ κ : Type} [DecidableEq κ] {g : Settings} {f : Fleet σ κ} {moves : List (Move κ)}

namespace Pool

/-! ## Standing still -/

section
variable {p : Pool σ κ} {k i : Nat}

theorem getElem?_after_of_still (hadvance : moves[k]? ≠ some (.advance i)) (habandon : moves[k]? ≠ some (.abandon i)) :
    (p.after g f moves (k + 1)).tasks[i]? = (p.after g f moves k).tasks[i]? := by
  cases hm : moves[k]? with
  | none => rw [after_succ_of_none g f p moves hm]
  | some m =>
    rw [after_succ g f p moves hm]
    rcases (p.after g f moves k).step_cases g f m with ⟨j, t, rfl, -, hs⟩ | ⟨j, t, rfl, -, hs⟩ | ⟨s, hs, -⟩
    · have hij : j ≠ i := fun hij => hadvance (hij ▸ hm)
      rw [hs, List.getElem?_set_ne hij]
    · have hij : j ≠ i := fun hij => habandon (hij ▸ hm)
      rw [hs, List.getElem?_set_ne hij]
    · rw [hs]

theorem getElem?_after_of_building {t : Task σ κ} {errand : Errand} {context : ClusterContext} {slot : SlotId}
    (ht : (p.after g f moves k).tasks[i]? = some t) (hst : t.stage = .resolving errand context slot)
    (hb : (p.after g f moves k).state.registry.slots slot = .building) (habandon : moves[k]? ≠ some (.abandon i)) :
    (p.after g f moves (k + 1)).tasks[i]? = some t := by
  by_cases hm : moves[k]? = some (.advance i)
  · rw [getElem?_after_advance hm ht, Task.advance_waiting g f hst hb]
  · rw [getElem?_after_of_still hm habandon, ht]

end

omit [DecidableEq κ] in
theorem asks_of_resolving {p : Pool σ κ} {i : Nat} {t : Task σ κ} {errand : Errand} {context : ClusterContext}
    {slot : SlotId} (ht : p.tasks[i]? = some t) (hst : t.stage = .resolving errand context slot) : p.Asks i slot :=
  Option.bind_eq_some_iff.mpr ⟨t, ht, by rw [hst]; rfl⟩

/-! ## A construction and those who wait for it -/

namespace Constructs

section
variable {jobs : List Job} {s : State σ κ} {j b e : Nat} {context : ClusterContext} {slot : SlotId}
  {outcome : Outcome κ} (h : (ofJobs jobs s).Constructs g f moves j b context slot e outcome)
include h

theorem building {k : Nat} (hk : b < k) (hke : k ≤ e) :
    ((ofJobs jobs s).after g f moves k).state.registry.slots slot = .building := by
  obtain ⟨t, ht, hb⟩ := Option.bind_eq_some_iff.mp (h.builds hk hke)
  exact (((Orderly.ofJobs jobs s).after g f moves k).fits j t ht).building slot hb

theorem exists_resolving {i w : Nat} (hij : i ≠ j) (hbw : b < w) (hwe : w ≤ e)
    (ha : ((ofJobs jobs s).after g f moves w).Asks i slot) : ∃ t errand,
      ((ofJobs jobs s).after g f moves w).tasks[i]? = some t ∧ t.stage = .resolving errand context slot := by
  obtain ⟨t, ht, hs⟩ := Option.bind_eq_some_iff.mp ha
  cases hst : t.stage with
  | resolving errand context' slot' =>
    rw [hst] at hs
    cases hs
    obtain ⟨hmem, hslot⟩ := h.connects.owns
    obtain ⟨hmem', hslot'⟩ := owns_of_slot? jobs s w ht (by rw [hst]; rfl) (by rw [hst]; rfl)
    obtain rfl : context' = context := Contexts.eq_of_id hmem' hmem (hslot'.symm.trans hslot)
    exact ⟨t, errand, ht, hst⟩
  | connecting errand context' slot' finish =>
    rw [hst] at hs
    cases hs
    obtain ⟨u, hu, hb⟩ := Option.bind_eq_some_iff.mp (h.builds hbw hwe)
    have halone := ((Orderly.ofJobs jobs s).after g f moves w).alone i j t u slot ht hu (by rw [hst]; rfl) hb
    exact absurd halone hij
  | _ =>
    rw [hst] at hs
    cases hs

section
variable {i w : Nat} {t : Task σ κ} {errand : Errand} (hbw : b < w)
  (ht : ((ofJobs jobs s).after g f moves w).tasks[i]? = some t) (hst : t.stage = .resolving errand context slot)
  (hstays : ∀ k, w ≤ k → ((ofJobs jobs s).after g f moves k).Asks i slot → moves[k]? ≠ some (.abandon i))
include hbw ht hst hstays

theorem waits {k : Nat} (hwk : w ≤ k) (hke : k ≤ e + 1) : ((ofJobs jobs s).after g f moves k).tasks[i]? = some t := by
  induction k, hwk using Nat.le_induction with
  | base => exact ht
  | succ k hwk ih =>
    -- up to move `e` the slot is under construction, so a step of the task changes nothing
    have htk := ih (Nat.le_of_succ_le hke)
    have hb := h.building (Nat.lt_of_lt_of_le hbw hwk) (Nat.le_of_succ_le_succ hke)
    exact getElem?_after_of_building htk hst hb (hstays k hwk (asks_of_resolving htk hst))

theorem waits_on (hwe : w ≤ e) {k : Nat} (hek : e < k) (hadvance : ∀ l, e < l → l < k → moves[l]? ≠ some (.advance i)) :
    ((ofJobs jobs s).after g f moves k).tasks[i]? = some t := by
  induction k, Nat.succ_le_of_lt hek using Nat.le_induction with
  | base => exact h.waits hbw ht hst hstays (Nat.le_succ_of_le hwe) (Nat.le_refl _)
  | succ k hek' ih =>
    have htk := ih hek' fun l hl hlk => hadvance l hl (Nat.lt_succ_of_lt hlk)
    have habandon := hstays k (Nat.le_trans hwe (Nat.le_of_succ_le hek')) (asks_of_resolving htk hst)
    rw [getElem?_after_of_still (hadvance k hek' (Nat.lt_succ_self k)) habandon, htk]

end

end

section
variable {jobs : List Job} {s : State σ κ} {j b e : Nat} {context : ClusterContext} {slot : SlotId} {client : κ}
  (h : (ofJobs jobs s).Constructs g f moves j b context slot e (.ok client))
include h

theorem last {k : Nat} (hk : b < k) : ¬ (ofJobs jobs s).Notes g f moves k (.connecting slot) := by
  intro hn
  have he := empty_of_notes hn
  rcases Nat.lt_or_ge e k with hek | hke
  · rw [h.ready hek] at he
    cases he
  · rw [h.building hk hke] at he
    cases he

end

end Constructs

/-! ## Shared constructions -/

section
variable (g f)

/-- In every interleaving, while a task builds a client, whoever else asks for the slot waits and is handed this
client, and nobody calls for another one. If the construction fails, the failure is that of the task that has
called for it, and the first to come to the slot calls again itself. -/
theorem construction_is_shared (jobs : List Job) (s : State σ κ) (moves : List (Move κ)) {j b e : Nat}
    {context : ClusterContext} {slot : SlotId} {outcome : Outcome κ}
    (h : (ofJobs jobs s).Constructs g f moves j b context slot e outcome) :
    let p := (ofJobs jobs s).after g f moves
    (∀ i w, i ≠ j → b < w → w ≤ e → (p w).Asks i slot →
      (∀ k, w ≤ k → (p k).Asks i slot → moves[k]? ≠ some (.abandon i)) →
      (∀ k, w ≤ k → k ≤ e + 1 → (p k).Asks i slot) ∧
      ∀ client k, outcome = .ok client → e < k → moves[k]? = some (.advance i) →
        (∀ l, e < l → l < k → moves[l]? ≠ some (.advance i)) →
        (ofJobs jobs s).Receives g f moves i (k + 1) context client) ∧
    (∀ client k, outcome = .ok client → b < k → ¬ (ofJobs jobs s).Notes g f moves k (.connecting slot)) ∧
    ∀ failure, outcome = .error failure →
      (p (e + 1)).results[j]? = some (some (.error failure)) ∧ (p (e + 1)).state.registry.slots slot = .empty ∧
      ∀ i k, e < k → (∀ l, e < l → l < k → ¬ (ofJobs jobs s).Notes g f moves l (.connecting slot)) →
        moves[k]? = some (.advance i) → (p k).Asks i slot → (ofJobs jobs s).Connects g f moves i k context slot := by
  intro p
  refine ⟨?_, ?_, ?_⟩
  · intro i w hij hbw hwe ha hstays
    obtain ⟨t, errand, ht, hst⟩ := h.exists_resolving hij hbw hwe ha
    refine ⟨fun k hwk hke => asks_of_resolving (h.waits hbw ht hst hstays hwk hke) hst, ?_⟩
    rintro client k rfl hek hm hfirst
    have htk := h.waits_on hbw ht hst hstays hwe hek hfirst
    have hnext := getElem?_after_advance hm htk
    rw [Task.advance_found g f hst (h.ready hek)] at hnext
    exact receives_of_resolved jobs s hnext rfl
  · rintro client k rfl hk
    exact h.last hk
  · rintro failure rfl
    obtain ⟨⟨t, errand, ht, hst⟩, hempty⟩ := h.ended
    refine ⟨?_, hempty, ?_⟩
    · rw [results, List.getElem?_map, ht]
      simp only [Option.map_some, Task.result?, hst, Stage.built]
    · intro i k hek hquiet hm ha
      obtain ⟨hmem, hslot⟩ := h.connects.owns
      exact connects_of_quiet hmem hslot hempty (Nat.succ_le_of_lt hek) hquiet hm ha

theorem construction_is_shared_of_two :
    let g : Settings := ⟨⟨[], rfl⟩, ⟨[]⟩, none⟩
    let f := Simulated.fleet .echo
    let first : ClusterContext := ⟨"default", .inCluster⟩
    let staging : ClusterContext := ⟨"staging", .inCluster⟩
    let world : Simulated.World := { Simulated.World.empty with slowConnect := true }
    let new : Simulated.Client := ⟨"staging", 2⟩
    let slot : SlotId := ⟨"staging", 0⟩
    let s : State Simulated.World Simulated.Client :=
      ⟨.start ⟨first, [staging], by decide⟩ ⟨"default", 1⟩, { world with built := 1 }, 0,
        [.connected ⟨"default", 0⟩ ⟨"default", 1⟩, .connecting ⟨"default", 0⟩]⟩
    let jobs : List Job := [.resolve (some "staging"), .resolve (some "staging")]
    let moves : List (Move Simulated.Client) :=
      [.advance 0, .advance 1, .advance 0, .advance 1, .advance 0, .advance 1]
    let p := (ofJobs jobs s).after g f moves
    State.start? f first [staging] 0 world = some (.ok s) ∧
      (ofJobs jobs s).Constructs g f moves 0 2 staging slot 4 (.ok new) ∧ (p 3).Asks 1 slot ∧
      Move.abandon 1 ∉ moves ∧ (ofJobs jobs s).Receives g f moves 1 6 staging new ∧
      ∀ k, 2 < k → ¬ (ofJobs jobs s).Notes g f moves k (.connecting slot) := by
  intro g f first staging world new slot s jobs moves p
  have hs : State.start? f first [staging] 0 world = some (.ok s) := rfl
  have hasking : (p 2).tasks[0]? = some ⟨0, jobs[0], none, 0, .resolving .handOver staging slot⟩ := rfl
  have hcalls : (ofJobs jobs s).Connects g f moves 0 2 staging slot := connects_of_empty rfl hasking rfl rfl
  have hreply : (f.connect staging (p 2).state.world).1 = .later 0 (Simulated.build staging) := rfl
  have hbuilding : (p 4).tasks[0]? =
      some ⟨0, jobs[0], none, 0, .connecting .handOver staging slot (some (Simulated.build staging))⟩ := rfl
  have hcons : (ofJobs jobs s).Constructs g f moves 0 2 staging slot 4 (.ok new) :=
    .afterwards hcalls hreply (by decide) rfl hbuilding rfl
  have hasks : (p 3).Asks 1 slot := by decide +kernel
  have hstays : Move.abandon 1 ∉ moves := by simp [moves]
  obtain ⟨hwaits, hlast, -⟩ := construction_is_shared g f jobs s moves hcons
  obtain ⟨-, hhanded⟩ := hwaits 1 3 (by decide) (by decide) (by decide) hasks fun k _ _ hk => hstays (List.mem_of_getElem? hk)
  refine ⟨hs, hcons, hasks, hstays, ?_, fun k hk => hlast new k rfl hk⟩
  exact hhanded new 5 rfl (by decide) rfl fun l hl hlt => by omega

/-- A failure is not shared: the second of two tasks waits while the first builds in vain, and then
calls itself for the client that it is handed. -/
theorem failure_is_not_shared :
    let g : Settings := ⟨⟨[], rfl⟩, ⟨[]⟩, none⟩
    let f := Simulated.fleet .echo
    let first : ClusterContext := ⟨"default", .inCluster⟩
    let staging : ClusterContext := ⟨"staging", .inCluster⟩
    let refused : Failure := .connection "refused"
    let world : Simulated.World := { Simulated.World.empty with slowConnect := true }
    let new : Simulated.Client := ⟨"staging", 2⟩
    let slot : SlotId := ⟨"staging", 0⟩
    let started : State Simulated.World Simulated.Client :=
      ⟨.start ⟨first, [staging], by decide⟩ ⟨"default", 1⟩, { world with built := 1 }, 0,
        [.connected ⟨"default", 0⟩ ⟨"default", 1⟩, .connecting ⟨"default", 0⟩]⟩
    let s := { started with world := { started.world with connectFailures := [refused] } }
    let jobs : List Job := [.resolve (some "staging"), .resolve (some "staging")]
    let moves : List (Move Simulated.Client) :=
      [.advance 0, .advance 1, .advance 0, .advance 1, .advance 0, .advance 1, .advance 1, .advance 1]
    let p := (ofJobs jobs s).after g f moves
    State.start? f first [staging] 0 world = some (.ok started) ∧
      (ofJobs jobs s).Constructs g f moves 0 2 staging slot 4 (.error refused) ∧ (p 3).Asks 1 slot ∧
      Move.abandon 1 ∉ moves ∧ (ofJobs jobs s).Notes g f moves 5 (.connecting slot) ∧
      (p 8).results = [some (.error refused), some (.ok (.resolved staging new))] := by
  intro g f first staging refused world new slot started s jobs moves p
  have hstart : State.start? f first [staging] 0 world = some (.ok started) := rfl
  have hasking : (p 2).tasks[0]? = some ⟨0, jobs[0], none, 0, .resolving .handOver staging slot⟩ := rfl
  have hcalls : (ofJobs jobs s).Connects g f moves 0 2 staging slot := connects_of_empty rfl hasking rfl rfl
  have hreply : (f.connect staging (p 2).state.world).1 = .later 0 (Simulated.build staging) := rfl
  have hbuilding : (p 4).tasks[0]? =
      some ⟨0, jobs[0], none, 0, .connecting .handOver staging slot (some (Simulated.build staging))⟩ := rfl
  have hcons : (ofJobs jobs s).Constructs g f moves 0 2 staging slot 4 (.error refused) :=
    .afterwards hcalls hreply (by decide) rfl hbuilding rfl
  exact ⟨hstart, hcons, by decide +kernel, by simp [moves], by decide +kernel, by decide +kernel⟩

end

end Pool

end ClusterGateway
