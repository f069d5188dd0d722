import ClusterGateway.Proofs.Gateway.Separation

/-!
# Twins

Two tasks for one context are twins where they are at the same stage and the part of the context is the same.
They take the same steps, however different the rest of the state is, as long as what is in time for the one
is in time for the other. So the clock of the second is never ahead of the first, and where both wait the
second waits no longer and has no less time left.
-/

namespace ClusterGateway

variable {σ κ τ : Type}

/-! ## Stages -/

section
variable (view : String → σ → τ) (owner : κ → String) (c : ClusterContext)

/-- The same stage of a request for this context; what it waits for comes to the same where the world has the
same part. -/
inductive Stage.Twin : Stage σ κ → Stage σ κ → Prop
  | arrived : Twin .arrived .arrived
  | resolving (errand : Errand) {slot : SlotId} (hslot : slot.context = c.id) :
    Twin (.resolving errand c slot) (.resolving errand c slot)
  | connecting (errand : Errand) {slot : SlotId} {finish finish' : σ → Outcome κ × σ} (hslot : slot.context = c.id)
      (h : Confined view c.id Eq finish finish')
      (howner : ∀ w client, (finish w).1 = .ok client → owner client = c.id) :
    Twin (.connecting errand c slot (some finish)) (.connecting errand c slot (some finish'))
  | connectingEver (errand : Errand) {slot : SlotId} (hslot : slot.context = c.id) :
    Twin (.connecting errand c slot none) (.connecting errand c slot none)
  | resolved (errand : Errand) {client : κ} (howner : owner client = c.id) :
    Twin (.resolved errand c client) (.resolved errand c client)
  | calling (what : String) (client : κ) {finish finish' : σ → Outcome Json × σ}
      (h : Confined view c.id Eq finish finish') :
    Twin (.calling what c client (some finish)) (.calling what c client (some finish'))
  | callingEver (what : String) (client : κ) : Twin (.calling what c client none) (.calling what c client none)
  | answered (client : κ) (outcome : Outcome Json) : Twin (.answered c client outcome) (.answered c client outcome)
  | finished (result : Outcome (Answer κ)) : Twin (.finished result) (.finished result)

end

/-! ## Moments -/

/-- The second moment is no later than the first, and leaves no less time until its own deadline. -/
structure Ahead (deadline deadline' : Option Instant) (m m' : Instant) : Prop where
  le : m' ≤ m
  slack (wait : Nat) : deadline.all (m + wait ≤ ·) = true → deadline'.all (m' + wait ≤ ·) = true

namespace Ahead

variable {deadline deadline' : Option Instant} {m m' n n' : Instant}

theorem add (h : Ahead deadline deadline' m m') (wait : Nat) : Ahead deadline deadline' (m + wait) (m' + wait) where
  le := Nat.add_le_add_right h.le wait
  slack more := by
    rw [Nat.add_assoc, Nat.add_assoc]
    exact h.slack (wait + more)

theorem mono (h : Ahead deadline deadline' m m') (hle : m ≤ n) : Ahead deadline deadline' n m' where
  le := Nat.le_trans h.le hle
  slack wait hall := by
    refine h.slack wait ?_
    simp only [Option.all_eq_true, decide_eq_true_eq] at hall ⊢
    exact fun d hd => Nat.le_trans (Nat.add_le_add_right hle wait) (hall d hd)

theorem sup (h : Ahead deadline deadline' m m') (h' : Ahead deadline deadline' n n') :
    Ahead deadline deadline' (max m n) (max m' n') := by
  have hm := h.mono (Nat.le_max_left m n)
  have hn := h'.mono (Nat.le_max_right m n)
  rcases Nat.le_total m' n' with hle | hle
  · rwa [Nat.max_eq_right hle]
  · rwa [Nat.max_eq_left hle]

theorem all_lt (h : Ahead deadline deadline' m m') (hall : deadline.all (m < ·) = true) :
    deadline'.all (m' < ·) = true :=
  h.slack 1 hall

theorem eq_none (h : Ahead deadline deadline' m m') (hnone : deadline = none) : deadline' = none := by
  cases hd : deadline' with
  | none => rfl
  | some d =>
    -- a deadline of the second would leave room for every wait
    have hroom := h.slack (d + 1) (by rw [hnone]; rfl)
    simp only [hd, Option.all_some, decide_eq_true_eq] at hroom
    exact absurd (Nat.le_trans (Nat.le_add_left ..) hroom) (Nat.not_succ_le_self d)

end Ahead

/-- The clock of the second task is not ahead of the first, and what both wait for is there no later for the
second, which is in time for it. -/
structure Task.Paced (next next' : Task σ κ × State σ κ) : Prop where
  clock : Ahead next.1.deadline next'.1.deadline next.2.clock next'.2.clock
  due : next.1.due?.isSome = true → Ahead next.1.deadline next'.1.deadline next.1.due next'.1.due
  early : next.1.due?.isSome = true → next'.1.deadline.all (next'.2.clock < ·) = true

namespace Task.Paced

variable {t t' : Task σ κ} {s s' : State σ κ}

theorem of_due? (hclock : Ahead t.deadline t'.deadline s.clock s'.clock) (hdue : t.due? = none) :
    Paced (t, s) (t', s') where
  clock := hclock
  due hsome := by simp [hdue] at hsome
  early hsome := by simp [hdue] at hsome

theorem atLeast (h : Paced (t, s) (t', s')) (hdue : t.due?.isSome = true) :
    Ahead t.deadline t'.deadline (s.atLeast t.due).clock (s'.atLeast t'.due).clock :=
  h.clock.sup (h.due hdue)

end Task.Paced

/-- What the task waits for will not be there before its deadline. -/
structure Task.Late (t : Task σ κ) : Prop where
  deadline : t.deadline.isSome = true
  waits : (∃ errand context slot, t.stage = .connecting errand context slot none) ∨
    ∃ what context client, t.stage = .calling what context client none

/-- The task is done, or waits for ever without a deadline: nothing is to be cancelled. -/
def Task.AtRest (t : Task σ κ) (s : State σ κ) : Prop :=
  t.result?.isSome = true ∨ t.isStuck s = true ∧ t.deadline = none

instance (t : Task σ κ) (s : State σ κ) : Decidable (t.AtRest s) :=
  inferInstanceAs (Decidable (_ ∨ _ ∧ _))

theorem Task.Late.not_atRest {t : Task σ κ} (h : t.Late) (s : State σ κ) : ¬ t.AtRest s := by
  rintro (hdone | ⟨-, hnone⟩)
  · rcases h.waits with ⟨errand, context, slot, hst⟩ | ⟨what, context, client, hst⟩
    · simp [Task.result?, hst] at hdone
    · simp [Task.result?, hst] at hdone
  · have hsome := h.deadline
    rw [hnone] at hsome
    cases hsome

theorem Task.Late.advance [DecidableEq κ] {t : Task σ κ} (h : t.Late) (g : Settings) (f : Fleet σ κ)
    (s : State σ κ) : t.advance g f s = (t, s) := by
  rcases h.waits with ⟨errand, context, slot, hst⟩ | ⟨what, context, client, hst⟩
  · simp only [Task.advance, hst]
  · simp only [Task.advance, hst]

section
variable (view : String → σ → τ) (owner : κ → String) (c : ClusterContext)

structure Task.Twins (next next' : Task σ κ × State σ κ) : Prop where
  stage : next.1.stage.Twin view owner c next'.1.stage
  part : next'.2.AgreeAt view owner c.id next.2
  owned : next'.2.Owned owner c.id
  paced : Paced next next'

/-- A step from the state `s` that is the step of a twin too, unless it has come too late, and that leaves the
parts of all other contexts alone. -/
structure Task.StepsAs (s : State σ κ) (next next' : Task σ κ × State σ κ) : Prop where
  twins : Twins view owner c next next' ∨ next.1.Late
  spares : s.Spares view owner c.id next.2

end

/-! ## Steps -/

namespace Task

variable {view : String → σ → τ} {owner : κ → String} {c : ClusterContext} {t t' : Task σ κ} {s s' : State σ κ}

theorem inTime_cases {α : Type} (wait : Nat) (finish finish' : σ → α × σ)
    (hclock : Ahead t.deadline t'.deadline s.clock s'.clock) :
    (t.inTime s wait finish = some finish ∧ t'.inTime s' wait finish' = some finish' ∧
      t'.deadline.all (s'.clock < ·) = true) ∨ (t.inTime s wait finish = none ∧ t.deadline.isSome = true) := by
  have hsplit : ∀ (t : Task σ κ) (s : State σ κ),
      (t.deadline.all fun d => s.clock < d ∧ s.clock + wait ≤ d) = true ↔
        t.deadline.all (s.clock < ·) = true ∧ t.deadline.all (s.clock + wait ≤ ·) = true := by
    intro t s
    cases t.deadline <;> simp
  unfold inTime
  by_cases hin : (t.deadline.all fun d => s.clock < d ∧ s.clock + wait ≤ d) = true
  · obtain ⟨hlt, hle⟩ := (hsplit t s).mp hin
    have hlt' := hclock.all_lt hlt
    exact .inl ⟨if_pos hin, if_pos ((hsplit t' s').mpr ⟨hlt', hclock.slack wait hle⟩), hlt'⟩
  · refine .inr ⟨if_neg hin, ?_⟩
    cases hd : t.deadline with
    | none => simp [hd] at hin
    | some d => rfl

theorem twin_built (errand : Errand) {outcome : Outcome κ}
    (ho : ∀ client, outcome = .ok client → owner client = c.id) :
    (Stage.built errand c outcome : Stage σ κ).Twin view owner c (.built errand c outcome) := by
  cases outcome with
  | ok client => exact .resolved errand (ho client rfl)
  | error failure => exact .finished _

section
variable (hpart : s'.AgreeAt view owner c.id s) (hclock : Ahead t.deadline t'.deadline s.clock s'.clock)
include hpart hclock

theorem building_stepsAs (howned : s'.Owned owner c.id) (errand : Errand) {slot : SlotId}
    (hslot : slot.context = c.id) {reply reply' : Reply σ (Outcome κ)} (hreply : reply.Alike view c.id reply')
    (hnow : ∀ client, reply = .now (.ok client) → owner client = c.id)
    (hlater : ∀ wait finish w client, reply = .later wait finish → (finish w).1 = .ok client → owner client = c.id) :
    StepsAs view owner c s (t.building s errand c slot reply) (t'.building s' errand c slot reply') := by
  have hbuilding : (s'.put slot .building).Owned owner c.id := howned.put slot nofun
  cases hreply with
  | now outcome =>
    have ho : ∀ client, outcome = .ok client → owner client = c.id := by
      rintro client rfl
      exact hnow client rfl
    refine ⟨.inl ⟨twin_built errand ho, hpart.settle slot outcome, howned.settle slot ho, ?_⟩, .settle s hslot outcome⟩
    exact .of_due? (by cases outcome <;> exact hclock) (by cases outcome <;> rfl)
  | @later wait finish finish' hfinish =>
    refine ⟨?_, .put s hslot _⟩
    rcases inTime_cases wait finish finish' hclock with ⟨hin, hin', hearly⟩ | ⟨hnone, hdeadline⟩
    · refine .inl ⟨?_, hpart.put slot _, hbuilding, hclock, fun _ => hclock.add wait, fun _ => hearly⟩
      simp only [building, hin, hin']
      exact .connecting errand hslot hfinish fun w client => hlater wait finish w client rfl
    · refine .inr ⟨hdeadline, .inl ⟨errand, c, slot, ?_⟩⟩
      simp only [building, hnone]
      rfl
  | never =>
    exact ⟨.inl ⟨.connectingEver errand hslot, hpart.put slot _, hbuilding, .of_due? hclock rfl⟩, .put s hslot _⟩

theorem awaiting_twins (howned : s'.Owned owner c.id) (what : String) (client : κ)
    {reply reply' : Reply σ (Outcome Json)} (hreply : reply.Alike view c.id reply') :
    Twins view owner c (t.awaiting s what c client reply, s) (t'.awaiting s' what c client reply', s') ∨
      (t.awaiting s what c client reply).Late := by
  cases hreply with
  | now outcome => exact .inl ⟨.answered client outcome, hpart, howned, .of_due? hclock rfl⟩
  | @later wait finish finish' hfinish =>
    rcases inTime_cases wait finish finish' hclock with ⟨hin, hin', hearly⟩ | ⟨hnone, hdeadline⟩
    · refine .inl ⟨?_, hpart, howned, hclock, fun _ => hclock.add wait, fun _ => hearly⟩
      simp only [awaiting, hin, hin']
      exact .calling what client hfinish
    · refine .inr ⟨hdeadline, .inr ⟨what, c, client, ?_⟩⟩
      simp only [awaiting, hnone]
      rfl
  | never => exact .inl ⟨.callingEver what client, hpart, howned, .of_due? hclock rfl⟩

variable {f : Fleet σ κ} (hf : f.Separates view owner)
include hf

theorem connect_stepsAs (howned : s'.Owned owner c.id) (errand : Errand) {slot : SlotId}
    (hslot : slot.context = c.id) :
    StepsAs view owner c s (t.connect f s errand c slot) (t'.connect f s' errand c slot) := by
  have hworld : view c.id s.world = view c.id s'.world := hpart.world
  have hconnect := hf.connect c
  rw [connect_eq, connect_eq]
  have hbegun := building_stepsAs ((hpart.inWorld (hconnect.part hworld)).record (e := .connecting slot) rfl) hclock
    howned errand hslot (hconnect.answer hworld) (fun client => hf.owned c s.world)
    (fun wait finish w client => hf.ownedLater c s.world w)
  refine ⟨hbegun.twins, ?_⟩
  have hworlds : s.Spares view owner c.id { s with world := (f.connect c s.world).2 } :=
    .inWorld s fun other => hconnect.others s.world
  refine (hworlds.trans (.record _ ?_)).trans hbegun.spares
  exact fun other hne => decide_eq_false fun hcontext => hne (hcontext.symm.trans hslot)

theorem operate_stepsAs (g : Settings) (howned : s'.Owned owner c.id) (kind : ResourceKind) (q : Request) {client : κ}
    (hclient : owner client = c.id) :
    StepsAs view owner c s (t.operate g f s kind q c client) (t'.operate g f s' kind q c client) := by
  have hworld : view c.id s.world = view c.id s'.world := hpart.world
  rw [operate_eq, operate_eq]
  cases Effect.ofRequest kind q with
  | error failure => exact ⟨.inl ⟨.answered client _, hpart, howned, .of_due? hclock rfl⟩, .refl s⟩
  | ok e =>
    have hstart := e.start_confined hf kind c hclient
    simp only [perform_eq]
    constructor
    · have hevent : (e.event t.ticket kind c client).anonymous = (e.event t'.ticket kind c client).anonymous := by
        cases e <;> rfl
      have hbegun := (hpart.inWorld (hstart.part hworld)).record hevent
      exact awaiting_twins hbegun hclock howned _ client ((hstart.answer hworld).map _)
    · have hworlds : s.Spares view owner c.id { s with world := (e.start f kind c client s.world).2 } :=
        .inWorld s fun other => hstart.others s.world
      refine hworlds.trans (.record _ fun other hne => ?_)
      cases e with
      | call _ => exact decide_eq_false fun howner => hne (howner.symm.trans hclient)
      | describe ns name => exact decide_eq_false (Ne.symm hne)

end

variable [DecidableEq κ]

theorem answer_stepsAs (hcontexts : s.registry.contexts = s'.registry.contexts)
    (hpart : s'.AgreeAt view owner c.id s) (howned : s'.Owned owner c.id)
    (hclock : Ahead t.deadline t'.deadline s.clock s'.clock) (client : κ) (outcome : Outcome Json) :
    StepsAs view owner c s (t.answer s c client outcome) (t'.answer s' c client outcome) := by
  have hkept : StepsAs view owner c s (t.goTo (.finished (outcome.map .value)), s)
      (t'.goTo (.finished (outcome.map .value)), s') :=
    ⟨.inl ⟨.finished _, hpart, howned, .of_due? hclock rfl⟩, .refl s⟩
  cases outcome with
  | ok v => exact hkept
  | error failure =>
    simp only [answer]
    split
    · have hslots : s.registry.slots (s.registry.current c.id) = s'.registry.slots (s'.registry.current c.id) := by
        rw [hpart.current]
        exact hpart.registry.slots _ rfl
      rw [State.invalidateClient_eq, State.invalidateClient_eq, hslots, hcontexts]
      split
      · exact ⟨.inl ⟨.finished _, hpart.evict, howned, .of_due? hclock rfl⟩, .evict s⟩
      · exact hkept
    · exact hkept

theorem advance_stepsAs {f : Fleet σ κ} (hf : f.Separates view owner) (g : Settings)
    (h : Twins view owner c (t, s) (t', s')) (harrived : t.stage ≠ .arrived)
    (hcontexts : s.registry.contexts = s'.registry.contexts) :
    StepsAs view owner c s (t.advance g f s) (t'.advance g f s') := by
  have hsame : StepsAs view owner c s (t, s) (t', s') := ⟨.inl h, .refl s⟩
  obtain ⟨hstage, hpart, howned, hpaced⟩ := h
  have hworld : view c.id s.world = view c.id s'.world := hpart.world
  have hclock : Ahead t.deadline t'.deadline s.clock s'.clock := hpaced.clock
  simp only at hstage hpart howned
  generalize hst : t.stage = st at hstage harrived
  generalize hst' : t'.stage = st' at hstage
  cases hstage with
  | arrived => exact absurd rfl harrived
  | @resolving errand slot hslot =>
    have hslots := hpart.registry.slots slot hslot
    simp only [advance, hst, hst', hslots]
    cases hready : s'.registry.slots slot with
    | ready client =>
      have howner := howned slot client hslot hready
      exact ⟨.inl ⟨.resolved errand howner, hpart, howned, .of_due? hclock rfl⟩, .refl s⟩
    | building => exact hsame
    | empty => exact connect_stepsAs hpart hclock hf howned errand hslot
  | @connecting errand slot finish finish' hslot hfinish howner =>
    have hdue := hpaced.atLeast (by simp [due?, hst])
    simp only [advance, hst, hst', connected_eq]
    have hpart' := (hpart.atLeast t'.due t.due).inWorld (hfinish.part hworld)
    have howned' : ({ s'.atLeast t'.due with world := (finish' s'.world).2 } : State σ κ).Owned owner c.id := howned
    have ho := howner s.world
    have hspares : s.Spares view owner c.id { s.atLeast t.due with world := (finish s.world).2 } :=
      (State.Spares.inWorld s fun other => hfinish.others s.world).trans (.atLeast _ t.due)
    simp only [← hfinish.answer hworld]
    refine ⟨.inl ⟨twin_built errand ho, hpart'.settle slot _, howned'.settle slot ho, ?_⟩,
      hspares.trans (.settle _ hslot _)⟩
    generalize (finish s.world).1 = outcome
    exact .of_due? (by cases outcome <;> exact hdue) (by cases outcome <;> rfl)
  | connectingEver errand hslot =>
    simp only [advance, hst, hst']
    exact hsame
  | @resolved errand client howner =>
    simp only [advance, hst, hst']
    cases errand with
    | handOver => exact ⟨.inl ⟨.finished _, hpart, howned, .of_due? hclock rfl⟩, .refl s⟩
    | operate kind q => exact operate_stepsAs hpart hclock hf g howned kind q howner
  | @calling what client finish finish' hfinish =>
    have hdue := hpaced.atLeast (by simp [due?, hst])
    simp only [advance, hst, hst']
    rw [← hfinish.answer hworld]
    have hpart' := (hpart.atLeast t'.due t.due).inWorld (hfinish.part hworld)
    refine ⟨.inl ⟨.answered client _, hpart', howned, .of_due? hdue rfl⟩, ?_⟩
    exact (State.Spares.inWorld s fun other => hfinish.others s.world).trans (.atLeast _ t.due)
  | callingEver what client =>
    simp only [advance, hst, hst']
    exact hsame
  | answered client outcome =>
    simp only [advance, hst, hst']
    exact answer_stepsAs hcontexts hpart howned hclock client outcome
  | finished result =>
    simp only [advance, hst, hst']
    exact hsame

end Task

/-! ## What no step changes -/

theorem Turn.fixed {ticket : Nat} {s s' : State σ κ} {st st' : Stage σ κ} (h : Turn ticket s st st' s') :
    s.clock ≤ s'.clock ∧ s'.registry.contexts = s.registry.contexts := by
  cases h with
  | begunAndSettled world outcome => cases outcome <;> exact ⟨Nat.le_refl _, rfl⟩
  | settled world outcome => cases outcome <;> exact ⟨Nat.le_max_left .., rfl⟩
  | replied => exact ⟨Nat.le_max_left .., rfl⟩
  | _ => exact ⟨Nat.le_refl _, rfl⟩

namespace Task

variable [DecidableEq κ] (g : Settings) (f : Fleet σ κ) (t : Task σ κ) (s : State σ κ)

theorem fixed_advance : (t.advance g f s).1.job = t.job ∧ s.clock ≤ (t.advance g f s).2.clock ∧
    (t.advance g f s).2.registry.contexts = s.registry.contexts := by
  rcases t.advance_turns g f s with hturn | ⟨hsame, -⟩
  · exact ⟨hturn.2.1, hturn.2.2.fixed⟩
  · rw [hsame]
    exact ⟨rfl, Nat.le_refl _, rfl⟩

/-! ## A task alone -/

theorem advance_of_isStuck (h : t.isStuck s = true) : t.advance g f s = (t, s) := by
  cases hst : t.stage with
  | resolving errand context slot =>
    cases hslot : s.registry.slots slot with
    | building => exact advance_waiting g f hst hslot
    | _ => simp [isStuck, waits, hst, hslot] at h
  | connecting errand context slot finish =>
    cases finish with
    | none => simp only [advance, hst]
    | some finish => simp [isStuck, hst] at h
  | calling what context client finish =>
    cases finish with
    | none => simp only [advance, hst]
    | some finish => simp [isStuck, hst] at h
  | _ => simp [isStuck, waits, hst] at h

omit [DecidableEq κ] in
theorem due?_of_waits (hwaits : t.waits s = true) (hstuck : t.isStuck s = false) : t.due?.isSome = true := by
  cases hst : t.stage with
  | connecting errand context slot finish => cases finish <;> simp_all [isStuck, due?]
  | calling what context client finish => cases finish <;> simp_all [isStuck, due?]
  | _ => simp_all [isStuck]

theorem finish_advance (h : t.due?.isSome = true → t.isDue s = false) :
    t.finish g f s = (t.advance g f s).1.finish g f (t.advance g f s).2 := by
  cases hstuck : t.isStuck s with
  | true => rw [advance_of_isStuck g f t s hstuck]
  | false =>
    cases hresult : t.result? with
    | some result =>
      have hdone : t.advance g f s = (t, s) := by
        unfold result? at hresult
        split at hresult
        · next hst => simp only [advance, hst]
        · cases hresult
      rw [hdone]
    | none =>
      cases hwaits : t.waits s with
      | false => exact finish_of_not_waits g f hresult hwaits
      | true =>
        -- what it waits for is on its way, and it is not to be dropped before
        have hdue := h (t.due?_of_waits s hwaits hstuck)
        have hnone : t.deadline.filter (fun d => d ≤ s.clock ∨ t.isStuck s = true) = none := by
          unfold isDue at hdue
          cases hd : t.deadline with
          | none => rfl
          | some d =>
            simp only [hd, Option.any_some, decide_eq_false_iff_not] at hdue
            simp [hstuck, Nat.lt_of_not_le hdue]
        rw [finish_of_waits g f hwaits, hnone]
        simp only [hstuck]
        rfl

theorem finish_of_atRest (h : t.AtRest s) : t.finish g f s = (t.result?, s) := by
  rcases h with hdone | ⟨hstuck, hdeadline⟩
  · obtain ⟨result, hresult⟩ := Option.isSome_iff_exists.mp hdone
    rw [hresult]
    exact finish_of_result? g f hresult
  · have hwaits := t.waits_of_isStuck s hstuck
    rw [finish_of_waits g f hwaits, t.result?_of_waits s hwaits, hdeadline]
    simp only [Option.filter_none, hstuck, if_true]

end Task

/-! ## What twins have in common -/

namespace Task

variable {view : String → σ → τ} {owner : κ → String} {c : ClusterContext} {t t' : Task σ κ} {s s' : State σ κ}

namespace Twins

variable (h : Twins view owner c (t, s) (t', s'))
include h

theorem result?_eq : t'.result? = t.result? := by
  obtain ⟨hstage, -, -, -⟩ := h
  unfold result?
  simp only at hstage
  generalize t.stage = st at hstage
  generalize t'.stage = st' at hstage
  cases hstage <;> rfl

theorem arrived_iff : t'.stage = .arrived ↔ t.stage = .arrived := by
  obtain ⟨hstage, -, -, -⟩ := h
  simp only at hstage
  generalize t.stage = st at hstage
  generalize t'.stage = st' at hstage
  cases hstage <;> simp

theorem due?_isSome_eq : t'.due?.isSome = t.due?.isSome := by
  obtain ⟨hstage, -, -, -⟩ := h
  unfold due?
  simp only at hstage
  generalize t.stage = st at hstage
  generalize t'.stage = st' at hstage
  cases hstage <;> rfl

theorem isStuck_eq : t'.isStuck s' = t.isStuck s := by
  obtain ⟨hstage, hpart, -, -⟩ := h
  unfold isStuck waits
  simp only at hstage hpart
  generalize t.stage = st at hstage
  generalize t'.stage = st' at hstage
  cases hstage with
  | resolving errand hslot => simp only [hpart.registry.slots _ hslot]
  | _ => rfl

end Twins

end Task

end ClusterGateway
