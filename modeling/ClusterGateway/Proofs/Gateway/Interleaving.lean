import ClusterGateway.Proofs.Context.Ledger
import ClusterGateway.Proofs.Gateway.Turn

/-!
# Interleavings

Whatever order the steps of the tasks of a pool come in, its journal is a history of its
registry. Two facts carry this from step to step: a slot that a task builds is under
construction, and no other task builds it.
-/

namespace ClusterGateway

variable {σ κ : Type}

/-! ## The journal only grows -/

namespace State

/-- The events that lead from one state to another are a history. -/
def Extends (s s' : State σ κ) : Prop :=
  ∃ es, s'.journal = es ++ s.journal ∧ s.registry.History es s'.registry

namespace Extends

variable {s s' s'' : State σ κ}

theorem refl (s : State σ κ) : Extends s s := ⟨[], rfl, .start⟩

theorem trans (h : Extends s s') (h' : Extends s' s'') : Extends s s'' := by
  obtain ⟨es, hj, hr⟩ := h
  obtain ⟨es', hj', hr'⟩ := h'
  exact ⟨es' ++ es, by rw [hj', hj, List.append_assoc], hr.trans hr'⟩

theorem next {e : Event κ} (ha : s.registry.Allows e) (hj : s'.journal = e :: s.journal)
    (hr : s'.registry = s.registry.apply e) : Extends s s' :=
  ⟨[e], hj, hr ▸ .single ha⟩

theorem generation_le (h : Extends s s') (id : String) : s.registry.generation id ≤ s'.registry.generation id :=
  have ⟨_, _, hr⟩ := h
  hr.generation_le id

theorem contexts_eq (h : Extends s s') : s'.registry.contexts = s.registry.contexts :=
  have ⟨_, _, hr⟩ := h
  hr.contexts_eq

theorem ready (h : Extends s s') {slot : SlotId} {client : κ} (hs : s.registry.slots slot = .ready client) :
    s'.registry.slots slot = .ready client :=
  have ⟨_, _, hr⟩ := h
  hr.ready hs

theorem mem (h : Extends s s') {e : Event κ} (he : e ∈ s.journal) : e ∈ s'.journal := by
  obtain ⟨es, hj, _⟩ := h
  rw [hj]
  exact List.mem_append_right es he

end Extends

theorem extends_begin {s : State σ κ} {slot : SlotId} (he : s.registry.slots slot = .empty)
    (hg : slot.generation ≤ s.registry.generation slot.context) (world : σ) :
    Extends s (({ s with world }.record (.connecting slot)).put slot .building) :=
  .next (e := .connecting slot) ⟨he, hg⟩ rfl rfl

theorem extends_settle {s : State σ κ} {slot : SlotId} (hb : s.registry.slots slot = .building)
    (outcome : Outcome κ) : Extends s (s.settle slot outcome) := by
  cases outcome with
  | ok client => exact .next (e := .connected slot client) hb rfl rfl
  | error failure => exact .next (e := .refused slot failure) hb rfl rfl

theorem extends_work {s : State σ κ} {e : Event κ} {ticket : Nat} {context : ClusterContext} {client : κ}
    (h : e.IsWork ticket context client) (world : σ) : Extends s ({ s with world }.record e) := by
  rcases h with ⟨call, rfl⟩ | ⟨kind, ns, name, rfl⟩
  · exact .next (e := .called ticket client call) trivial rfl rfl
  · exact .next (e := .described ticket context kind ns name) trivial rfl rfl

theorem extends_evict (s : State σ κ) (id : String) : Extends s (s.evict id) :=
  .next (e := .evicted (s.registry.current id)) rfl rfl rfl

end State

/-! ## One task among others -/

namespace Stage

/-- The slot that the task has read from the registry and still asks for its client. -/
def slot? : Stage σ κ → Option SlotId
  | .resolving _ _ slot => some slot
  | .connecting _ _ slot _ => some slot
  | _ => none

def building? : Stage σ κ → Option SlotId
  | .connecting _ _ slot _ => some slot
  | _ => none

structure Fits (st : Stage σ κ) (r : Registry κ) : Prop where
  known : ∀ slot, st.slot? = some slot → slot.generation ≤ r.generation slot.context
  building : ∀ slot, st.building? = some slot → r.slots slot = .building

theorem fits_of_slot?_eq_none {st : Stage σ κ} (h : st.slot? = none) (r : Registry κ) : st.Fits r := by
  have hb : st.building? = none := by
    cases st with
    | connecting => cases h
    | _ => rfl
  constructor
  · intro slot hs
    rw [h] at hs
    cases hs
  · intro slot hs
    rw [hb] at hs
    cases hs

@[simp] theorem slot?_built (errand : Errand) (context : ClusterContext) (outcome : Outcome κ) :
    (built errand context outcome : Stage σ κ).slot? = none := by
  cases outcome <;> rfl

@[simp] theorem building?_built (errand : Errand) (context : ClusterContext) (outcome : Outcome κ) :
    (built errand context outcome : Stage σ κ).building? = none := by
  cases outcome <;> rfl

end Stage

namespace Turn

variable {ticket : Nat} {s s' : State σ κ} {st st' : Stage σ κ}

theorem grows (h : Turn ticket s st st' s') (hf : st.Fits s.registry) : s.Extends s' := by
  cases h with
  | @begun errand context slot world finish he => exact State.extends_begin he (hf.known slot rfl) world
  | @begunAndSettled errand context slot world outcome he =>
    have hb := State.extends_begin he (hf.known slot rfl) world
    rw [← State.settle_put _ slot .building outcome]
    exact hb.trans (State.extends_settle (by simp) outcome)
  | @settled errand context slot finish world outcome due =>
    exact State.extends_settle (s := { s.atLeast due with world }) (hf.building slot rfl) outcome
  | @droppedBuild errand context slot finish failure =>
    exact .next (e := .dropped slot) (hf.building slot rfl) rfl rfl
  | worked world outcome hw => exact State.extends_work hw world
  | working world what finish hw => exact State.extends_work hw world
  | evicted => exact State.extends_evict s _
  | replied world => exact ⟨[], rfl, .start⟩
  | _ => exact .refl s

theorem fits (h : Turn ticket s st st' s') (hf : st.Fits s.registry) : st'.Fits s'.registry := by
  cases h with
  | selected errand hc =>
    refine ⟨fun slot hs => ?_, fun slot hs => by cases hs⟩
    cases hs
    exact Nat.le_refl _
  | @begun errand context slot world finish he =>
    refine ⟨fun t ht => ?_, fun t ht => ?_⟩
    · cases ht
      exact hf.known slot rfl
    · cases ht
      simp
  | begunAndSettled => exact Stage.fits_of_slot?_eq_none (Stage.slot?_built _ _ _) _
  | settled => exact Stage.fits_of_slot?_eq_none (Stage.slot?_built _ _ _) _
  | _ => exact Stage.fits_of_slot?_eq_none rfl _

theorem building (h : Turn ticket s st st' s') {slot : SlotId} (hb : s.registry.slots slot = .building)
    (hs : st.building? ≠ some slot) : s'.registry.slots slot = .building := by
  -- a slot that was found empty is another one
  have other : ∀ t, s.registry.slots t = .empty → slot ≠ t := by
    intro t ht hst
    rw [← hst, hb] at ht
    cases ht
  cases h with
  | @begun errand context t world finish he => simp [Registry.slots_put_of_ne _ _ (other t he), hb]
  | @begunAndSettled errand context t world outcome he =>
    cases outcome <;> simp [State.settle, Registry.slots_put_of_ne _ _ (other t he), hb]
  | @settled errand context t finish world outcome =>
    have ht : slot ≠ t := fun hst => hs (hst ▸ rfl)
    cases outcome <;> simp [State.settle, Registry.slots_put_of_ne _ _ ht, hb]
  | @droppedBuild errand context t finish failure =>
    have ht : slot ≠ t := fun hst => hs (hst ▸ rfl)
    simp [Registry.slots_put_of_ne _ _ ht, hb]
  | evicted => exact hb
  | _ => exact hb

theorem empty_of_building? (h : Turn ticket s st st' s') {slot : SlotId} (hs : st'.building? = some slot) :
    s.registry.slots slot = .empty := by
  cases h with
  | begun world finish he =>
    cases hs
    exact he
  | begunAndSettled => simp at hs
  | settled => simp at hs
  | _ => cases hs

end Turn

/-! ## Pools -/

namespace Task

theorem generation_abandon (t : Task σ κ) (s : State σ κ) :
    (t.abandon s).2.registry.generation = s.registry.generation := by
  unfold abandon
  split <;> rfl

end Task

namespace Pool

section
variable [DecidableEq κ] (g : Settings) (f : Fleet σ κ) (p : Pool σ κ)

/-- What a move makes of a pool; a move of a task that is not there leaves it as it is. -/
inductive Moved : Move κ → Pool σ κ → Prop
  | still (m : Move κ) : Moved m p
  | advance {i t} (ht : p.tasks[i]? = some t) :
    Moved (.advance i) ⟨p.tasks.set i (t.advance g f p.state).1, (t.advance g f p.state).2⟩
  | abandon {i t} (ht : p.tasks[i]? = some t) :
    Moved (.abandon i) ⟨p.tasks.set i (t.abandon p.state).1, (t.abandon p.state).2⟩
  | invalidate (id : String) : Moved (.invalidate id) ⟨p.tasks, (p.state.invalidate id).2⟩
  | invalidateClient (id : String) (client : κ) :
    Moved (.invalidateClient id client) ⟨p.tasks, (p.state.invalidateClient id client).2⟩
  | tick (moment : Instant) :
    Moved (.tick moment) ⟨p.tasks, p.state.atLeast moment⟩

variable {g f p}

theorem moved_of_eq {m : Move κ} {p' : Pool σ κ} (h : p.step g f m = p') : p.Moved g f m p' := by
  subst h
  cases m with
  | advance i =>
    cases ht : p.tasks[i]? with
    | none =>
      simp only [step, ht]
      exact .still _
    | some t =>
      simp only [step, ht]
      exact .advance ht
  | abandon i =>
    cases ht : p.tasks[i]? with
    | none =>
      simp only [step, ht]
      exact .still _
    | some t =>
      simp only [step, ht]
      exact .abandon ht
  | invalidate id => exact .invalidate id
  | invalidateClient id client => exact .invalidateClient id client
  | tick moment => exact .tick moment

end

inductive Changes (p : Pool σ κ) : Move κ → Pool σ κ → Prop
  | still (m : Move κ) : Changes p m p
  | advanced {i t next} (ht : p.tasks[i]? = some t) (h : t.Turns p.state next) :
    Changes p (.advance i) ⟨p.tasks.set i next.1, next.2⟩
  | abandoned {i t next} (ht : p.tasks[i]? = some t) (h : t.Turns p.state next)
      (hg : next.2.registry.generation = p.state.registry.generation) :
    Changes p (.abandon i) ⟨p.tasks.set i next.1, next.2⟩
  | invalidated (id : String) : Changes p (.invalidate id) { p with state := p.state.evict id }
  | replaced {id client} (h : p.state.registry.slots (p.state.registry.current id) = .ready client) :
    Changes p (.invalidateClient id client) { p with state := p.state.evict id }
  | ticked (moment clock : Instant) : Changes p (.tick moment) { p with state := { p.state with clock } }

theorem set_of_getElem? {α : Type} {l : List α} {i : Nat} {a : α} (h : l[i]? = some a) : l.set i a = l := by
  apply List.ext_getElem?
  intro j
  rw [List.getElem?_set]
  split
  · next hij =>
    subst hij
    rw [h, if_pos (List.getElem?_eq_some_iff.mp h).1]
  · rfl

theorem getElem?_set_cases {α : Type} {l : List α} {i j : Nat} {a b : α} (h : (l.set i a)[j]? = some b) :
    (i = j ∧ b = a) ∨ (i ≠ j ∧ l[j]? = some b) := by
  rw [List.getElem?_set] at h
  split at h
  · next hij =>
    split at h
    · exact .inl ⟨hij, (Option.some.inj h).symm⟩
    · cases h
  · next hij => exact .inr ⟨hij, h⟩

theorem step_changes [DecidableEq κ] (g : Settings) (f : Fleet σ κ) (p : Pool σ κ) (m : Move κ) :
    p.Changes m (p.step g f m) := by
  generalize hp' : p.step g f m = p'
  cases moved_of_eq hp' with
  | still => exact .still _
  | @advance i t ht =>
    rcases t.advance_turns g f p.state with h | ⟨h, _⟩
    · exact .advanced ht h
    · simp only [h, set_of_getElem? ht]
      exact .still _
  | @abandon i t ht =>
    rcases t.abandon_turns p.state with h | ⟨h, _⟩
    · exact .abandoned ht h (t.generation_abandon p.state)
    · simp only [h, set_of_getElem? ht]
      exact .still _
  | invalidate id =>
    simp only [State.invalidate_eq]
    split
    · exact .invalidated id
    · exact .still _
  | invalidateClient id client =>
    simp only [State.invalidateClient_eq]
    split
    · next h => exact .replaced h.2
    · exact .still _
  | tick moment => exact .ticked moment _

theorem start_of_ofJobs {jobs : List Job} {s : State σ κ} {i : Nat} {t : Task σ κ}
    (ht : (ofJobs jobs s).tasks[i]? = some t) : ∃ job, jobs[i]? = some job ∧ t = .start i job := by
  simp only [ofJobs, List.getElem?_mapIdx, Option.map_eq_some_iff] at ht
  obtain ⟨job, hjob, rfl⟩ := ht
  exact ⟨job, hjob, rfl⟩

/-- The tasks fit the registry, and no two build for the same slot. -/
structure Orderly (p : Pool σ κ) : Prop where
  fits : ∀ (i : Nat) (t : Task σ κ), p.tasks[i]? = some t → t.stage.Fits p.state.registry
  alone : ∀ (i j : Nat) (t u : Task σ κ) slot, p.tasks[i]? = some t → p.tasks[j]? = some u →
    t.stage.building? = some slot → u.stage.building? = some slot → i = j

namespace Orderly

variable {p p' : Pool σ κ}

theorem ofJobs (jobs : List Job) (s : State σ κ) : (ofJobs jobs s).Orderly := by
  have harrived : ∀ (i : Nat) (t : Task σ κ), (Pool.ofJobs jobs s).tasks[i]? = some t → t.stage.slot? = none := by
    intro i t ht
    obtain ⟨job, -, rfl⟩ := start_of_ofJobs ht
    rfl
  refine ⟨fun i t ht => Stage.fits_of_slot?_eq_none (harrived i t ht) _, ?_⟩
  intro i j t u slot ht _ hb _
  have hfits := Stage.fits_of_slot?_eq_none (harrived i t ht)
  -- a stage that fits every registry builds nothing
  have := (hfits (.blank s.registry.contexts)).building slot hb
  cases this

theorem evict (ho : p.Orderly) (id : String) : ({ p with state := p.state.evict id } : Pool σ κ).Orderly := by
  refine ⟨fun i t ht => ?_, ho.alone⟩
  have hf := ho.fits i t ht
  refine ⟨fun slot hs => Nat.le_trans (hf.known slot hs) ?_, hf.building⟩
  exact (p.state.extends_evict id).generation_le slot.context

theorem turn (ho : p.Orderly) {i : Nat} {t : Task σ κ} {next : Task σ κ × State σ κ}
    (ht : p.tasks[i]? = some t) (h : t.Turns p.state next) :
    (⟨p.tasks.set i next.1, next.2⟩ : Pool σ κ).Orderly := by
  have hturn := h.2.2
  have hf := ho.fits i t ht
  have hgrow := hturn.grows hf
  constructor
  · intro j u hu
    rcases getElem?_set_cases hu with ⟨_, rfl⟩ | ⟨hij, hu⟩
    · exact hturn.fits hf
    · have hfu := ho.fits j u hu
      refine ⟨fun slot hs => Nat.le_trans (hfu.known slot hs) (hgrow.generation_le _), fun slot hs => ?_⟩
      exact hturn.building (hfu.building slot hs) fun hts => hij (ho.alone i j t u slot ht hu hts hs)
  · -- a slot on which the task begins was empty, so nobody else builds there
    have fresh : ∀ (k : Nat) (u : Task σ κ) slot, p.tasks[k]? = some u → u.stage.building? = some slot →
        next.1.stage.building? ≠ some slot := by
      intro k u slot hu hb hn
      have := (ho.fits k u hu).building slot hb
      rw [hturn.empty_of_building? hn] at this
      cases this
    intro j k u v slot hu hv hbu hbv
    rcases getElem?_set_cases hu with ⟨rfl, rfl⟩ | ⟨_, hu⟩ <;>
      rcases getElem?_set_cases hv with ⟨rfl, rfl⟩ | ⟨_, hv⟩
    · rfl
    · exact absurd hbu (fresh k v slot hv hbv)
    · exact absurd hbv (fresh j u slot hu hbu)
    · exact ho.alone j k u v slot hu hv hbu hbv

theorem changes (ho : p.Orderly) {m : Move κ} (h : p.Changes m p') : p'.Orderly ∧ p.state.Extends p'.state := by
  cases h with
  | still => exact ⟨ho, .refl _⟩
  | advanced ht h => exact ⟨ho.turn ht h, h.2.2.grows (ho.fits _ _ ht)⟩
  | abandoned ht h => exact ⟨ho.turn ht h, h.2.2.grows (ho.fits _ _ ht)⟩
  | invalidated id => exact ⟨ho.evict id, p.state.extends_evict id⟩
  | replaced => exact ⟨ho.evict _, p.state.extends_evict _⟩
  | ticked => exact ⟨⟨ho.fits, ho.alone⟩, ⟨[], rfl, .start⟩⟩

theorem run [DecidableEq κ] (g : Settings) (f : Fleet σ κ) (ho : p.Orderly) (moves : List (Move κ)) :
    (p.run g f moves).Orderly ∧ p.state.Extends (p.run g f moves).state := by
  induction moves generalizing p with
  | nil => exact ⟨ho, .refl _⟩
  | cons m moves ih =>
    obtain ⟨ho', he⟩ := ho.changes (p.step_changes g f m)
    obtain ⟨ho'', he'⟩ := ih ho'
    exact ⟨ho'', he.trans he'⟩

end Orderly

/-! ## What every task keeps -/

def Each (p : Pool σ κ) (P : Nat → Task σ κ → State σ κ → Prop) : Prop :=
  ∀ i t, p.tasks[i]? = some t → P i t p.state

structure Kept (P : Nat → Task σ κ → State σ κ → Prop) : Prop where
  grows : ∀ {i t s s'}, P i t s → s.Extends s' → P i t s'
  turns : ∀ {i t s next}, P i t s → t.Turns s next → s.Extends next.2 → P i next.1 next.2

namespace Each

variable {p p' : Pool σ κ} {P : Nat → Task σ κ → State σ κ → Prop}

theorem turn (hk : Kept P) (h : p.Each P) {i : Nat} {t : Task σ κ} {next : Task σ κ × State σ κ}
    (ht : p.tasks[i]? = some t) (hn : t.Turns p.state next) (he : p.state.Extends next.2) :
    (⟨p.tasks.set i next.1, next.2⟩ : Pool σ κ).Each P := by
  intro j u hu
  rcases getElem?_set_cases hu with ⟨rfl, rfl⟩ | ⟨_, hu⟩
  · exact hk.turns (h i t ht) hn he
  · exact hk.grows (h j u hu) he

theorem changes (hk : Kept P) (h : p.Each P) {m : Move κ} (hm : p.Changes m p')
    (he : p.state.Extends p'.state) : p'.Each P := by
  cases hm with
  | advanced ht hn => exact h.turn hk ht hn he
  | abandoned ht hn => exact h.turn hk ht hn he
  | _ => exact fun i t ht => hk.grows (h i t ht) he

theorem run [DecidableEq κ] (hk : Kept P) (h : p.Each P) (ho : p.Orderly) (g : Settings) (f : Fleet σ κ)
    (moves : List (Move κ)) : (p.run g f moves).Each P := by
  induction moves generalizing p with
  | nil => exact h
  | cons m moves ih =>
    have hm := p.step_changes g f m
    obtain ⟨ho', he⟩ := ho.changes hm
    exact ih (h.changes hk hm he) ho'

end Each

/-! ## Moments of a run -/

section
variable [DecidableEq κ] (g : Settings) (f : Fleet σ κ) (p : Pool σ κ) (moves : List (Move κ))

def after (n : Nat) : Pool σ κ := p.run g f (moves.take n)

theorem run_append (moves' : List (Move κ)) :
    p.run g f (moves ++ moves') = (p.run g f moves).run g f moves' :=
  List.foldl_append

theorem after_of_le {n m : Nat} (h : n ≤ m) :
    p.after g f moves m = (p.after g f moves n).run g f ((moves.take m).drop n) := by
  have hsplit := List.take_append_drop n (moves.take m)
  rw [List.take_take, Nat.min_eq_left h] at hsplit
  rw [after, after, ← run_append, hsplit]

theorem after_succ {n : Nat} {m : Move κ} (h : moves[n]? = some m) :
    p.after g f moves (n + 1) = (p.after g f moves n).step g f m := by
  rw [after, List.take_add_one, h, run_append]
  rfl

theorem after_succ_of_none {n : Nat} (h : moves[n]? = none) : p.after g f moves (n + 1) = p.after g f moves n := by
  have hend : moves.length ≤ n := List.getElem?_eq_none_iff.mp h
  rw [after, after, List.take_of_length_le hend, List.take_of_length_le (Nat.le_succ_of_le hend)]

theorem after_of_step {P : Pool σ κ → Prop} (start : P p) (step : ∀ q m, P q → P (q.step g f m)) (n : Nat) :
    P (p.after g f moves n) := by
  induction n with
  | zero => exact start
  | succ n ih =>
    cases hm : moves[n]? with
    | none =>
      rw [after_succ_of_none g f p moves hm]
      exact ih
    | some m =>
      rw [after_succ g f p moves hm]
      exact step _ m ih

theorem run_eq_after (n : Nat) : p.run g f moves = (p.after g f moves n).run g f (moves.drop n) := by
  rw [after, ← run_append, List.take_append_drop]

namespace Orderly

variable {p} (ho : p.Orderly)
include ho

theorem after (n : Nat) : (p.after g f moves n).Orderly :=
  (ho.run g f _).1

theorem extends_after {n m : Nat} (h : n ≤ m) :
    (p.after g f moves n).state.Extends (p.after g f moves m).state := by
  rw [after_of_le g f p moves h]
  exact ((ho.after g f moves n).run g f _).2

theorem extends_run (n : Nat) : (p.after g f moves n).state.Extends (p.run g f moves).state := by
  rw [run_eq_after g f p moves n]
  exact ((ho.after g f moves n).run g f _).2

end Orderly

end

end Pool

/-! ## From the start -/

theorem Contexts.of_ofList {first : ClusterContext} {named : List ClusterContext} {c : Contexts}
    (h : Contexts.ofList first named = .ok c) : c.first = first ∧ c.named = named := by
  unfold ofList at h
  split at h
  · cases h
  · cases h
    exact ⟨rfl, rfl⟩

theorem State.contexts_of_start? {f : Fleet σ κ} {first : ClusterContext} {named : List ClusterContext}
    {clock : Instant} {world : σ} {s : State σ κ} (h : State.start? f first named clock world = some (.ok s)) :
    s.registry.contexts.first = first ∧ s.registry.contexts.named = named := by
  unfold State.start? at h
  simp only at h
  split at h
  · cases h
  · cases h
  · split at h
    · cases h
    · next contexts hc =>
      cases h
      exact Contexts.of_ofList hc

theorem State.history_of_start? {f : Fleet σ κ} {first : ClusterContext} {named : List ClusterContext}
    {clock : Instant} {world : σ} {s : State σ κ} (h : State.start? f first named clock world = some (.ok s)) :
    Registry.History (.blank s.registry.contexts) s.journal s.registry := by
  unfold State.start? at h
  simp only at h
  split at h
  · cases h
  · cases h
  · next client _ _ =>
    split at h
    · cases h
    · next contexts hc =>
      cases h
      obtain ⟨rfl, _⟩ := Contexts.of_ofList hc
      let slot : SlotId := ⟨contexts.first.id, 0⟩
      have hb : (Registry.blank contexts : Registry κ).Allows (.connecting slot) := ⟨rfl, Nat.le_refl _⟩
      have hc : ((Registry.blank contexts).apply (.connecting slot)).Allows (.connected slot client) :=
        Registry.slots_put_self _ _ _
      have hh := (Registry.History.single hb).next hc
      simp only [Registry.apply, Registry.put_put] at hh
      exact hh

theorem Pool.history_of_start? [DecidableEq κ] (g : Settings) (f : Fleet σ κ) {first : ClusterContext}
    {named : List ClusterContext} {clock : Instant} {world : σ} {s : State σ κ}
    (h : State.start? f first named clock world = some (.ok s)) (jobs : List Job) (moves : List (Move κ)) :
    let p := (ofJobs jobs s).run g f moves
    p.Orderly ∧ Registry.History (.blank s.registry.contexts) p.state.journal p.state.registry := by
  intro p
  obtain ⟨ho, es, hj, hr⟩ := (Orderly.ofJobs jobs s).run g f moves
  refine ⟨ho, ?_⟩
  rw [show p.state.journal = es ++ s.journal from hj]
  exact (State.history_of_start? h).trans hr

end ClusterGateway
