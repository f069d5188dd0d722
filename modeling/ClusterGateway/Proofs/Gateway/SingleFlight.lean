import ClusterGateway.Proofs.Gateway.Interleaving
import ClusterGateway.Simulated.Fleet

/-!
# Constructions are shared

In every interleaving a client is built once for each slot, as long as its construction neither
fails nor is dropped, and whoever has read the slot is handed this very client.
-/

namespace ClusterGateway

variable {σ κ : Type}

namespace Stage

def client? : Stage σ κ → Option κ
  | .resolved _ _ client => some client
  | .calling _ _ client _ => some client
  | .answered _ client _ => some client
  | .finished (.ok (.resolved _ client)) => some client
  | _ => none

/-- Whoever has read the slot is still waiting, or has its client, or goes without. -/
def Served (st : Stage σ κ) (slot : SlotId) (r : Registry κ) : Prop :=
  st.slot? = some slot ∨
    (st ≠ .arrived ∧ st.slot? = none ∧ ∀ client, st.client? = some client → r.slots slot = .ready client)

variable {st st' : Stage σ κ} {slot : SlotId} {r : Registry κ}

theorem Served.of_client?_eq_none (ha : st ≠ .arrived) (hs : st.slot? = none) (hc : st.client? = none) :
    st.Served slot r :=
  .inr ⟨ha, hs, fun client h => by rw [hc] at h; cases h⟩

theorem Served.of_ready (ha : st ≠ .arrived) (hs : st.slot? = none) {client : κ} (hc : st.client? = some client)
    (hr : r.slots slot = .ready client) : st.Served slot r :=
  .inr ⟨ha, hs, fun c h => by rw [hc] at h; cases h; exact hr⟩

theorem Served.ready (h : st.Served slot r) {client : κ} (hc : st.client? = some client) :
    r.slots slot = .ready client := by
  rcases h with hs | ⟨_, _, hs⟩
  · cases st <;> simp [slot?] at hs <;> simp [client?] at hc
  · exact hs client hc

theorem Served.mono {s s' : State σ κ} (h : st.Served slot s.registry) (he : s.Extends s') :
    st.Served slot s'.registry := by
  rcases h with hs | ⟨ha, hs, hr⟩
  · exact .inl hs
  · exact .inr ⟨ha, hs, fun client hc => he.ready (hr client hc)⟩

theorem served_built {s : State σ κ} {errand : Errand} {context : ClusterContext} (outcome : Outcome κ) :
    (built errand context outcome : Stage σ κ).Served slot (s.settle slot outcome).registry := by
  cases outcome with
  | ok client => exact .of_ready (by simp [built]) rfl rfl (Registry.slots_put_self _ _ _)
  | error failure => exact .of_client?_eq_none (by simp [built]) rfl rfl

end Stage

theorem Turn.served {ticket : Nat} {s s' : State σ κ} {st st' : Stage σ κ} {slot : SlotId}
    (h : Turn ticket s st st' s') (he : s.Extends s') (hs : st.Served slot s.registry) :
    st'.Served slot s'.registry := by
  -- a stage with a client keeps it
  have keep : ∀ client, st.client? = some client → st'.client? = some client → st' ≠ .arrived →
      st'.slot? = none → st'.Served slot s'.registry := by
    intro client hc hc' ha hn
    exact .of_ready ha hn hc' (he.ready (hs.ready hc))
  cases h with
  | denied | selected =>
    rcases hs with hs | ⟨ha, _⟩
    · cases hs
    · exact absurd rfl ha
  | @found errand context t client hr =>
    obtain rfl : t = slot := by simpa [Stage.Served, Stage.slot?] using hs
    exact .of_ready (by simp) rfl rfl hr
  | begun => exact .inl (by simpa [Stage.Served, Stage.slot?] using hs)
  | @begunAndSettled errand context t world outcome _ =>
    obtain rfl : t = slot := by simpa [Stage.Served, Stage.slot?] using hs
    exact Stage.served_built outcome
  | @settled errand context t finish world outcome =>
    obtain rfl : t = slot := by simpa [Stage.Served, Stage.slot?] using hs
    exact Stage.served_built outcome
  | handed => exact keep _ rfl rfl (by simp) rfl
  | rejected => exact keep _ rfl rfl (by simp) rfl
  | worked => exact keep _ rfl rfl (by simp) rfl
  | working => exact keep _ rfl rfl (by simp) rfl
  | replied => exact keep _ rfl rfl (by simp) rfl
  | droppedCall => exact keep _ rfl rfl (by simp) rfl
  | ended outcome => cases outcome <;> exact .of_client?_eq_none (by simp [Except.map]) rfl rfl
  | droppedWait | droppedBuild | evicted => exact .of_client?_eq_none (by simp) rfl rfl

namespace Pool

/-- The task has read the slot and asks for its client. -/
def Asks (p : Pool σ κ) (i : Nat) (slot : SlotId) : Prop :=
  p.tasks[i]?.bind (·.stage.slot?) = some slot

def Builds (p : Pool σ κ) (i : Nat) (slot : SlotId) : Prop :=
  p.tasks[i]?.bind (·.stage.building?) = some slot

def Holds (p : Pool σ κ) (i : Nat) (client : κ) : Prop :=
  p.tasks[i]?.bind (·.stage.client?) = some client

instance (p : Pool σ κ) (i : Nat) (slot : SlotId) : Decidable (p.Asks i slot) :=
  inferInstanceAs (Decidable (_ = _))

instance (p : Pool σ κ) (i : Nat) (slot : SlotId) : Decidable (p.Builds i slot) :=
  inferInstanceAs (Decidable (_ = _))

instance [DecidableEq κ] (p : Pool σ κ) (i : Nat) (client : κ) : Decidable (p.Holds i client) :=
  inferInstanceAs (Decidable (_ = _))

variable {p p' : Pool σ κ} {i : Nat} {slot : SlotId}

theorem served_kept (i : Nat) (slot : SlotId) :
    Kept fun j (t : Task σ κ) s => j = i → t.stage.Served slot s.registry where
  grows h he hi := (h hi).mono he
  turns h hn he hi := hn.2.2.served he (h hi)

variable [DecidableEq κ] (g : Settings) (f : Fleet σ κ)

/-- In the course of the run the task has read the slot and then been handed the client. -/
def Hands (p : Pool σ κ) (moves : List (Move κ)) (i : Nat) (slot : SlotId) (client : κ) : Prop :=
  ∃ n m, n ≤ m ∧ (p.after g f moves n).Asks i slot ∧ (p.after g f moves m).Holds i client

theorem ready_of_hands (ho : p.Orderly) {moves : List (Move κ)} {client : κ}
    (h : Hands g f p moves i slot client) :
    (p.run g f moves).state.registry.slots slot = .ready client := by
  obtain ⟨n, m, hnm, ha, hc⟩ := h
  obtain ⟨t, ht, hs⟩ := Option.bind_eq_some_iff.mp ha
  obtain ⟨v, hv, hcv⟩ := Option.bind_eq_some_iff.mp hc
  have hserved : (p.after g f moves n).Each fun j t s => j = i → t.stage.Served slot s.registry := by
    rintro _ u hu rfl
    rw [ht] at hu
    cases hu
    exact .inl hs
  have hlater := hserved.run (served_kept i slot) (ho.after g f moves n) g f ((moves.take m).drop n)
  rw [← after_of_le g f p moves hnm] at hlater
  exact (ho.extends_run g f moves m).ready ((hlater i v hv rfl).ready hcv)

/-! ## Single flight -/

/-- From the start on, in every interleaving: the constructions of a context are one more, at most, than its
evictions, its refusals and those that were dropped. No two tasks build for one slot at once, a slot sees one
success at most, and all that are handed a client from it are handed the same one. -/
theorem single_flight {first : ClusterContext} {named : List ClusterContext} {clock : Instant} {world : σ}
    {s : State σ κ} (h : State.start? f first named clock world = some (.ok s)) (jobs : List Job)
    (moves : List (Move κ)) (id : String) :
    let p := (ofJobs jobs s).run g f moves
    let J := p.state.journal
    Journal.tallyOf J .begun id ≤
        1 + Journal.tallyOf J .evicted id + Journal.tallyOf J .refused id + Journal.tallyOf J .dropped id ∧
      ∀ n, let slot : SlotId := ⟨id, n⟩
        (∀ i j, p.Builds i slot → p.Builds j slot → i = j) ∧
        Journal.tally J .built slot ≤ 1 ∧
        ∀ i j c d, Hands g f (ofJobs jobs s) moves i slot c → Hands g f (ofJobs jobs s) moves j slot d →
          c = d ∧ .connected slot c ∈ J := by
  intro p J
  have ho : (ofJobs jobs s).Orderly := .ofJobs jobs s
  obtain ⟨horderly, hhistory⟩ := history_of_start? g f h jobs moves
  refine ⟨hhistory.begun_le id, fun n => ⟨?_, ?_, ?_⟩⟩
  · intro i j hi hj
    obtain ⟨t, ht, hbt⟩ := Option.bind_eq_some_iff.mp hi
    obtain ⟨u, hu, hbu⟩ := Option.bind_eq_some_iff.mp hj
    exact horderly.alone i j t u _ ht hu hbt hbu
  · rw [hhistory.built_eq]
    exact Bool.toNat_le _
  · intro i j c d hi hj
    have hc := ready_of_hands g f ho hi
    have hd := ready_of_hands g f ho hj
    rw [hc] at hd
    exact ⟨Slot.ready.inj hd, (hhistory.mem_connected_iff _ _).mpr hc⟩

theorem single_flight_of_replaced :
    let g : Settings := ⟨⟨[], rfl⟩, ⟨[]⟩, none⟩
    let f := Simulated.fleet .echo
    let contexts : Contexts := ⟨⟨"default", .inCluster⟩, [⟨"staging", .inCluster⟩], by decide⟩
    let world : Simulated.World := { Simulated.World.empty with slowConnect := true }
    let ask : Job := .resolve (some "staging")
    let moves : List (Move Simulated.Client) := [.advance 0, .advance 1, .advance 0, .advance 1,
      .invalidate "staging", .advance 2, .advance 2, .advance 0, .advance 1, .advance 2]
    ∃ s, State.start? f contexts.first contexts.named 0 world = some (.ok s) ∧
      let p := (ofJobs [ask, ask, ask] s).run g f moves
      let J := p.state.journal
      p.Holds 0 ⟨"staging", 2⟩ ∧ p.Holds 1 ⟨"staging", 2⟩ ∧ p.Holds 2 ⟨"staging", 3⟩ ∧
      Journal.tallyOf J .begun "staging" = 2 ∧
      Journal.tallyOf J .begun "staging" ≤ 1 + Journal.tallyOf J .evicted "staging" +
        Journal.tallyOf J .refused "staging" + Journal.tallyOf J .dropped "staging" := by
  intro g f contexts world ask moves
  have hs : State.start? f contexts.first contexts.named 0 world = some (.ok _) := rfl
  refine ⟨_, hs, by decide +kernel, by decide +kernel, by decide +kernel, by decide +kernel, ?_⟩
  exact (single_flight g f hs [ask, ask, ask] moves "staging").1

end Pool

end ClusterGateway
