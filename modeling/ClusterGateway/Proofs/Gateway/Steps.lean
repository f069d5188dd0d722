import ClusterGateway.Proofs.Gateway.Delivery

/-!
# What one step does

A step takes one slot at most from empty to under construction or from there to what comes of it, and
notes what it does. All other moves leave the slots as they are.
-/

namespace ClusterGateway

variable {σ κ : Type}

/-! ## States -/

namespace State

theorem invalidate_cases (s : State σ κ) (id : String) :
    s.invalidate id = (true, s.evict id) ∨ s.invalidate id = (false, s) := by
  rw [invalidate_eq]
  split
  · exact .inl rfl
  · exact .inr rfl

theorem invalidateClient_cases [DecidableEq κ] (s : State σ κ) (id : String) (client : κ) :
    s.invalidateClient id client = (true, s.evict id) ∨ s.invalidateClient id client = (false, s) := by
  rw [invalidateClient_eq]
  split
  · exact .inl rfl
  · exact .inr rfl

structure OnlyEvicts (s s' : State σ κ) : Prop where
  slots : s'.registry.slots = s.registry.slots
  noted : ∃ es, s'.journal = es ++ s.journal ∧ ∀ e ∈ es, ∃ slot, e = .evicted slot

theorem OnlyEvicts.refl (s : State σ κ) : s.OnlyEvicts s := ⟨rfl, [], rfl, List.forall_mem_nil _⟩

theorem onlyEvicts_evict (s : State σ κ) (id : String) : s.OnlyEvicts (s.evict id) :=
  ⟨rfl, [_], rfl, fun _ he => ⟨_, List.mem_singleton.mp he⟩⟩

end State

/-! ## Turns -/

def Slot.ofOutcome : Outcome κ → Slot κ
  | .ok client => .ready client
  | .error _ => .empty

theorem State.slots_settle (s : State σ κ) (slot : SlotId) (outcome : Outcome κ) :
    (s.settle slot outcome).registry.slots slot = .ofOutcome outcome := by
  cases outcome <;> simp [settle, Slot.ofOutcome]

theorem State.slots_settle_of_ne (s : State σ κ) {slot slot' : SlotId} (h : slot' ≠ slot) (outcome : Outcome κ) :
    (s.settle slot outcome).registry.slots slot' = s.registry.slots slot' := by
  cases outcome <;> simp [settle, Registry.slots_put_of_ne _ _ h]

theorem Stage.eq_ok_of_built {errand errand' : Errand} {context context' : ClusterContext} {outcome : Outcome κ}
    {client : κ} (h : (built errand context outcome : Stage σ κ) = .resolved errand' context' client) :
    outcome = .ok client := by
  cases outcome with
  | ok c => cases h; rfl
  | error failure => cases h

theorem Stage.connecting_of_rank {st : Stage σ κ} (hle : 4 ≤ st.rank) (hge : st.rank ≤ 4) :
    ∃ errand context slot finish, st = .connecting errand context slot finish := by
  cases st with
  | connecting errand context slot finish => exact ⟨errand, context, slot, finish, rfl⟩
  | _ => simp [rank] at hle hge

/-- The event tells of what a task with this ticket does from this stage. -/
structure Event.StemsFrom (e : Event κ) (ticket : Nat) (s : State σ κ) (st : Stage σ κ) : Prop where
  connecting : ∀ slot, e = .connecting slot → st.slot? = some slot ∧ s.registry.slots slot = .empty
  operation : e.isOperation = true → ∃ kind request context client,
    st = .resolved (.operate kind request) context client ∧ e.IsWork ticket context client

theorem Event.connecting_stemsFrom {slot : SlotId} {ticket : Nat} {s : State σ κ} {st : Stage σ κ}
    (hs : st.slot? = some slot) (he : s.registry.slots slot = .empty) :
    (Event.connecting slot).StemsFrom ticket s st := by
  refine ⟨fun t ht => ?_, nofun⟩
  cases ht
  exact ⟨hs, he⟩

theorem Event.stemsFrom_of_other {e : Event κ} {ticket : Nat} {s : State σ κ} {st : Stage σ κ}
    (hc : ∀ slot, e ≠ .connecting slot) (ho : e.isOperation = false) : e.StemsFrom ticket s st := by
  refine ⟨fun slot he => absurd he (hc slot), fun he => ?_⟩
  rw [ho] at he
  cases he

inductive Turn.Touches (s : State σ κ) (slot : SlotId) : Stage σ κ → Stage σ κ → Slot κ → Prop
  | untouched {st st' : Stage σ κ} (h : st.building? ≠ some slot) : Touches s slot st st' (s.registry.slots slot)
  | begun {errand context finish} (he : s.registry.slots slot = .empty) :
    Touches s slot (.resolving errand context slot) (.connecting errand context slot finish) .building
  | settledAtOnce {errand context} (outcome) (he : s.registry.slots slot = .empty) :
    Touches s slot (.resolving errand context slot) (.built errand context outcome) (.ofOutcome outcome)
  | settled {errand context finish} (outcome) :
    Touches s slot (.connecting errand context slot finish) (.built errand context outcome) (.ofOutcome outcome)
  | dropped {errand context finish failure} :
    Touches s slot (.connecting errand context slot finish) (.finished (.error failure)) .empty

namespace Turn

variable {ticket : Nat} {s s' : State σ κ} {st st' : Stage σ κ}

theorem notes (h : Turn ticket s st st' s') :
    ∃ es, s'.journal = es ++ s.journal ∧ ∀ e ∈ es, e.StemsFrom ticket s st := by
  have one : ∀ {e : Event κ}, e.StemsFrom ticket s st → ∀ e' ∈ [e], e'.StemsFrom ticket s st :=
    fun he e' hm => List.mem_singleton.mp hm ▸ he
  have ended : ∀ (s₁ : State σ κ) slot (outcome : Outcome κ),
      ∃ e, (s₁.settle slot outcome).journal = e :: s₁.journal ∧ e.StemsFrom ticket s st := by
    intro s₁ slot outcome
    cases outcome with
    | ok client => exact ⟨_, rfl, Event.stemsFrom_of_other nofun rfl⟩
    | error failure => exact ⟨_, rfl, Event.stemsFrom_of_other nofun rfl⟩
  have work : ∀ {e : Event κ} {kind request context client},
      st = .resolved (.operate kind request) context client → e.IsWork ticket context client →
      e.StemsFrom ticket s st := by
    intro e kind request context client hst hw
    refine ⟨fun slot hs => ?_, fun _ => ⟨kind, request, context, client, hst, hw⟩⟩
    rcases hw with ⟨call, rfl⟩ | ⟨kind, ns, name, rfl⟩ <;> cases hs
  cases h with
  | @begun errand context slot world finish he =>
    exact ⟨[.connecting slot], rfl, one (Event.connecting_stemsFrom rfl he)⟩
  | @begunAndSettled errand context slot world outcome he =>
    obtain ⟨e, hj, hstems⟩ := ended ({ s with world }.record (.connecting slot)) slot outcome
    refine ⟨[e, .connecting slot], hj, fun e' hm => ?_⟩
    rcases List.mem_cons.mp hm with rfl | hm
    · exact hstems
    · exact one (Event.connecting_stemsFrom rfl he) e' hm
  | @settled errand context slot finish world outcome due =>
    obtain ⟨e, hj, hstems⟩ := ended { s.atLeast due with world } slot outcome
    exact ⟨[e], hj, one hstems⟩
  | @droppedBuild errand context slot => exact ⟨[.dropped slot], rfl, one (Event.stemsFrom_of_other nofun rfl)⟩
  | worked world outcome hw => exact ⟨[_], rfl, one (work rfl hw)⟩
  | working world what finish hw => exact ⟨[_], rfl, one (work rfl hw)⟩
  | evicted => exact ⟨[.evicted _], rfl, one (Event.stemsFrom_of_other nofun rfl)⟩
  | _ => exact ⟨[], rfl, fun _ hm => by cases hm⟩

theorem touches (h : Turn ticket s st st' s') (slot : SlotId) : Touches s slot st st' (s'.registry.slots slot) := by
  cases h with
  | @begun errand context t world finish he =>
    by_cases ht : slot = t
    · subst ht
      rw [State.registry_put, Registry.slots_put_self]
      exact .begun he
    · rw [State.registry_put, Registry.slots_put_of_ne _ _ ht]
      exact .untouched nofun
  | @begunAndSettled errand context t world outcome he =>
    by_cases ht : slot = t
    · subst ht
      rw [State.slots_settle]
      exact .settledAtOnce outcome he
    · rw [State.slots_settle_of_ne _ ht]
      exact .untouched nofun
  | @settled errand context t finish world outcome =>
    by_cases ht : slot = t
    · subst ht
      rw [State.slots_settle]
      exact .settled outcome
    · rw [State.slots_settle_of_ne _ ht]
      exact .untouched fun hb => ht (Option.some.inj hb).symm
  | @droppedBuild errand context t finish failure =>
    by_cases ht : slot = t
    · subst ht
      rw [State.registry_record, State.registry_put, Registry.slots_put_self]
      exact .dropped
    · rw [State.registry_record, State.registry_put, Registry.slots_put_of_ne _ _ ht]
      exact .untouched fun hb => ht (Option.some.inj hb).symm
  | _ => exact .untouched nofun

theorem ready_cases (h : Turn ticket s st st' s') {slot : SlotId} {client : κ}
    (hr : s'.registry.slots slot = .ready client) :
    s.registry.slots slot = .ready client ∨ ∃ errand context, st' = .resolved errand context client ∧
      (st = .resolving errand context slot ∧ s.registry.slots slot = .empty ∨
        ∃ finish, st = .connecting errand context slot finish) := by
  have htouches := h.touches slot
  generalize s'.registry.slots slot = content at hr htouches
  cases htouches with
  | untouched => exact .inl hr
  | @settledAtOnce errand context outcome he =>
    cases outcome with
    | ok c => cases hr; exact .inr ⟨errand, context, rfl, .inl ⟨rfl, he⟩⟩
    | error => cases hr
  | @settled errand context finish outcome =>
    cases outcome with
    | ok c => cases hr; exact .inr ⟨errand, context, rfl, .inr ⟨finish, rfl⟩⟩
    | error => cases hr
  | _ => cases hr

theorem building_cases (h : Turn ticket s st st' s') {slot : SlotId} (hb : s'.registry.slots slot = .building) :
    st'.building? = some slot ∨ (s.registry.slots slot = .building ∧ st.building? ≠ some slot) := by
  have htouches := h.touches slot
  generalize s'.registry.slots slot = content at hb htouches
  cases htouches with
  | untouched hne => exact .inr ⟨hb, hne⟩
  | begun => exact .inl rfl
  | settledAtOnce outcome => cases outcome <;> cases hb
  | settled outcome => cases outcome <;> cases hb
  | dropped => cases hb

theorem returned_of_handed {context : ClusterContext} {client : κ} (h : Turn ticket s st st' s')
    (hst : st = .resolved .handOver context client ∨ st = .finished (.ok (.resolved context client))) :
    st' = .finished (.ok (.resolved context client)) := by
  rcases hst with rfl | rfl
  · cases h with
    | handed => rfl
  · cases h

theorem resolving_of_connecting {errand : Errand} {context : ClusterContext} {slot : SlotId}
    {finish : Option (σ → Outcome κ × σ)} (h : Turn ticket s st st' s')
    (hst : st' = .connecting errand context slot finish) :
    st = .resolving errand context slot ∧ s.registry.slots slot = .empty := by
  cases h with
  | begun world fin he =>
    cases hst
    exact ⟨rfl, he⟩
  | begunAndSettled world outcome => cases outcome <;> cases hst
  | settled world outcome => cases outcome <;> cases hst
  | _ => cases hst

end Turn

namespace Task

variable (t : Task σ κ) (s : State σ κ)

theorem building_called (errand : Errand) (context : ClusterContext) (slot : SlotId) (reply : Reply σ (Outcome κ)) :
    (t.building s errand context slot reply).2.world = s.world ∧
      ∃ es, (t.building s errand context slot reply).2.journal = es ++ s.journal := by
  cases reply with
  | now outcome => cases outcome <;> exact ⟨rfl, [_], rfl⟩
  | later wait finish => exact ⟨rfl, [], rfl⟩
  | never => exact ⟨rfl, [], rfl⟩

theorem advance_resolving [DecidableEq κ] (g : Settings) (f : Fleet σ κ) {t : Task σ κ} {s : State σ κ}
    {errand : Errand} {context : ClusterContext} {slot : SlotId} (hst : t.stage = .resolving errand context slot)
    (he : s.registry.slots slot = .empty) :
    t.advance g f s = t.building ({ s with world := (f.connect context s.world).2 }.record (.connecting slot)) errand
      context slot (f.connect context s.world).1 := by
  simp only [advance, hst, he]
  exact t.connect_eq s errand context slot

theorem advance_waiting [DecidableEq κ] (g : Settings) (f : Fleet σ κ) {t : Task σ κ} {s : State σ κ} {errand : Errand}
    {context : ClusterContext} {slot : SlotId} (hst : t.stage = .resolving errand context slot)
    (hb : s.registry.slots slot = .building) : t.advance g f s = (t, s) := by
  simp only [advance, hst, hb]

theorem advance_found [DecidableEq κ] (g : Settings) (f : Fleet σ κ) {t : Task σ κ} {s : State σ κ} {errand : Errand}
    {context : ClusterContext} {slot : SlotId} {client : κ} (hst : t.stage = .resolving errand context slot)
    (hr : s.registry.slots slot = .ready client) : t.advance g f s = (t.goTo (.resolved errand context client), s) := by
  simp only [advance, hst, hr]

theorem rank_building (errand : Errand) (context : ClusterContext) (slot : SlotId) (reply : Reply σ (Outcome κ)) :
    (t.building s errand context slot reply).1.stage.rank ≤ 4 := by
  cases reply with
  | now outcome => cases outcome <;> simp [building, goTo, Stage.built, Stage.rank]
  | later wait finish => simp [building, goTo, Stage.rank]
  | never => simp [building, goTo, Stage.rank]

theorem rank_advance_le [DecidableEq κ] (g : Settings) (f : Fleet σ κ) :
    (t.advance g f s).1.stage.rank ≤ t.stage.rank := by
  rcases t.advance_turns g f s with hturn | ⟨hsame, -⟩
  · exact Nat.le_of_lt hturn.2.2.rank_lt
  · rw [hsame]

theorem rank_abandon_le : (t.abandon s).1.stage.rank ≤ t.stage.rank := by
  rcases t.abandon_turns s with hturn | ⟨hsame, -⟩
  · exact Nat.le_of_lt hturn.2.2.rank_lt
  · rw [hsame]

theorem eq_now_of_building {t : Task σ κ} {s : State σ κ} {errand errand' : Errand} {context context' : ClusterContext}
    {slot : SlotId} {client : κ} {reply : Reply σ (Outcome κ)}
    (h : (t.building s errand context slot reply).1.stage = .resolved errand' context' client) :
    reply = .now (.ok client) := by
  cases reply with
  | now outcome => rw [Stage.eq_ok_of_built h]
  | later wait finish => cases h
  | never => cases h

theorem advance_connecting [DecidableEq κ] (g : Settings) (f : Fleet σ κ) {t : Task σ κ} {s : State σ κ}
    {errand : Errand} {context : ClusterContext} {slot : SlotId} {finish : Option (σ → Outcome κ × σ)}
    (h : (t.advance g f s).1.stage = .connecting errand context slot finish) :
    t.advance g f s = (t, s) ∨ t.stage = .resolving errand context slot ∧ s.registry.slots slot = .empty ∧
      ∀ fin, finish = some fin → ∃ wait, (f.connect context s.world).1 = .later wait fin := by
  rcases t.advance_turns g f s with hturn | ⟨hsame, -⟩
  · obtain ⟨hst, he⟩ := hturn.2.2.resolving_of_connecting h
    refine .inr ⟨hst, he, ?_⟩
    rw [advance_resolving g f hst he] at h
    rintro fin rfl
    cases hr : (f.connect context s.world).1 with
    | now outcome =>
      rw [hr] at h
      cases outcome <;> cases h
    | later wait fin' =>
      rw [hr] at h
      simp only [building, goTo, Stage.connecting.injEq, true_and] at h
      rw [eq_of_inTime h]
      exact ⟨wait, rfl⟩
    | never =>
      rw [hr] at h
      cases h
  · exact .inl hsame

theorem ready_of_abandon {slot : SlotId} {client : κ} (h : (t.abandon s).2.registry.slots slot = .ready client) :
    s.registry.slots slot = .ready client := by
  rcases t.abandon_turns s with hturn | ⟨hsame, -⟩
  · rcases hturn.2.2.ready_cases h with hr | ⟨errand, context, hst', ⟨hst, -⟩ | ⟨finish, hst⟩⟩
    · exact hr
    · rw [abandon, hst] at hst'
      cases hst'
    · rw [abandon, hst] at hst'
      cases hst'
  · rw [hsame] at h
    exact h

end Task

/-! ## Moves -/

theorem Pool.step_cases [DecidableEq κ] (g : Settings) (f : Fleet σ κ) (p : Pool σ κ) (m : Move κ) :
    (∃ i t, m = .advance i ∧ p.tasks[i]? = some t ∧
      p.step g f m = ⟨p.tasks.set i (t.advance g f p.state).1, (t.advance g f p.state).2⟩) ∨
    (∃ i t, m = .abandon i ∧ p.tasks[i]? = some t ∧
      p.step g f m = ⟨p.tasks.set i (t.abandon p.state).1, (t.abandon p.state).2⟩) ∨
    ∃ s, p.step g f m = ⟨p.tasks, s⟩ ∧ p.state.OnlyEvicts s := by
  generalize hp' : p.step g f m = p'
  cases moved_of_eq hp' with
  | still => exact .inr (.inr ⟨p.state, rfl, .refl _⟩)
  | advance ht => exact .inl ⟨_, _, rfl, ht, rfl⟩
  | abandon ht => exact .inr (.inl ⟨_, _, rfl, ht, rfl⟩)
  | invalidate id =>
    refine .inr (.inr ⟨_, rfl, ?_⟩)
    rcases p.state.invalidate_cases id with h | h
    · rw [h]
      exact p.state.onlyEvicts_evict id
    · rw [h]
      exact .refl _
  | invalidateClient id client =>
    refine .inr (.inr ⟨_, rfl, ?_⟩)
    rcases p.state.invalidateClient_cases id client with h | h
    · rw [h]
      exact p.state.onlyEvicts_evict id
    · rw [h]
      exact .refl _
  | tick moment => exact .inr (.inr ⟨_, rfl, rfl, [], rfl, List.forall_mem_nil _⟩)

end ClusterGateway
