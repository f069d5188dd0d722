import ClusterGateway.Gateway.Pool

/-!
# All that a step of a task can do

`Turn` lists the ways in which a task leaves a stage, with what becomes of the state. `advance`
and `abandon` take one of them or change nothing; the latter only when the task is done or has to
wait, so whoever reasons about a step goes through the cases here.
-/

namespace ClusterGateway

deriving instance DecidableEq for Answer

variable {σ κ : Type}

def State.settle (s : State σ κ) (slot : SlotId) : Outcome κ → State σ κ
  | .ok client => (s.put slot (.ready client)).record (.connected slot client)
  | .error failure => (s.put slot .empty).record (.refused slot failure)

theorem State.settle_put (s : State σ κ) (slot : SlotId) (content : Slot κ) (outcome : Outcome κ) :
    (s.put slot content).settle slot outcome = s.settle slot outcome := by
  cases outcome <;> simp [settle, put, record, Registry.put_put]

def Stage.built (errand : Errand) (context : ClusterContext) : Outcome κ → Stage σ κ
  | .ok client => .resolved errand context client
  | .error failure => .finished (.error failure)

/-- An event that is a call or a run of the describe tool, made for this ticket. -/
def Event.IsWork (e : Event κ) (ticket : Nat) (context : ClusterContext) (client : κ) : Prop :=
  (∃ call, e = .called ticket client call) ∨ ∃ kind ns name, e = .described ticket context kind ns name

namespace Effect

def start (f : Fleet σ κ) (kind : ResourceKind) (context : ClusterContext) (client : κ) (e : Effect) (world : σ) :
    Reply σ (Outcome Json) × σ :=
  match e with
  | .call c => f.call client c world
  | .describe ns name =>
    let (reply, world) := f.describe context kind ns name world
    (reply.map fun outcome => outcome.map Json.str, world)

def event (ticket : Nat) (kind : ResourceKind) (context : ClusterContext) (client : κ) : Effect → Event κ
  | .call c => .called ticket client c
  | .describe ns name => .described ticket context kind.name ns name

theorem event_isWork (ticket : Nat) (kind : ResourceKind) (context : ClusterContext) (client : κ) (e : Effect) :
    (e.event ticket kind context client).IsWork ticket context client := by
  cases e with
  | call c => exact .inl ⟨c, rfl⟩
  | describe ns name => exact .inr ⟨_, _, _, rfl⟩

end Effect

namespace Contexts

theorem mem_of_find? {c : Contexts} {id : String} {x : ClusterContext} (h : c.find? id = some x) :
    x ∈ c.all ∧ x.id = id :=
  ⟨List.mem_of_find?_eq_some h, by simpa using List.find?_some h⟩

theorem find?_of_mem_ids {c : Contexts} {id : String} (h : id ∈ c.ids) :
    ∃ x, c.find? id = some x ∧ x.id = id := by
  obtain ⟨x, hx, rfl⟩ := List.mem_map.mp h
  cases hf : c.find? x.id with
  | none => exact absurd (List.find?_eq_none.mp hf x hx) (by simp)
  | some y => exact ⟨y, rfl, (mem_of_find? hf).2⟩

theorem mem_of_select {c : Contexts} {id : Option String} {x : ClusterContext} (h : c.select id = .ok x) :
    x ∈ c.all ∧ x.id = c.named? id := by
  unfold select at h
  split at h
  · next y hy =>
    cases h
    exact mem_of_find? hy
  · cases h

end Contexts

namespace Task

theorem connected_eq (t : Task σ κ) (s : State σ κ) (errand : Errand) (context : ClusterContext)
    (slot : SlotId) (outcome : Outcome κ) :
    t.connected s errand context slot outcome = (t.goTo (.built errand context outcome), s.settle slot outcome) := by
  cases outcome <;> rfl

theorem perform_eq (f : Fleet σ κ) (t : Task σ κ) (s : State σ κ) (kind : ResourceKind)
    (context : ClusterContext) (client : κ) (e : Effect) :
    t.perform f s kind context client e = ((e.start f kind context client s.world).1,
      { s with world := (e.start f kind context client s.world).2 }.record
        (e.event t.ticket kind context client)) := by
  cases e <;> rfl

end Task

/-- A task with this ticket goes from one stage and the state `s` to another. -/
inductive Turn (ticket : Nat) (s : State σ κ) : Stage σ κ → Stage σ κ → State σ κ → Prop
  | denied (failure : Failure) : Turn ticket s .arrived (.finished (.error failure)) s
  | selected (errand : Errand) {context : ClusterContext} (h : context ∈ s.registry.contexts.all) :
    Turn ticket s .arrived (.resolving errand context (s.registry.current context.id)) s
  | found {errand context slot client} (h : s.registry.slots slot = .ready client) :
    Turn ticket s (.resolving errand context slot) (.resolved errand context client) s
  | begun {errand context slot} (world : σ) (finish) (h : s.registry.slots slot = .empty) :
    Turn ticket s (.resolving errand context slot) (.connecting errand context slot finish)
      (({ s with world }.record (.connecting slot)).put slot .building)
  | begunAndSettled {errand context slot} (world : σ) (outcome) (h : s.registry.slots slot = .empty) :
    Turn ticket s (.resolving errand context slot) (.built errand context outcome)
      (({ s with world }.record (.connecting slot)).settle slot outcome)
  | settled {errand context slot finish} (world : σ) (outcome) (due : Instant) :
    Turn ticket s (.connecting errand context slot finish) (.built errand context outcome)
      ({ s.atLeast due with world }.settle slot outcome)
  | droppedWait {errand context slot} (failure : Failure) :
    Turn ticket s (.resolving errand context slot) (.finished (.error failure)) s
  | droppedBuild {errand context slot finish} (failure : Failure) :
    Turn ticket s (.connecting errand context slot finish) (.finished (.error failure))
      ((s.put slot .empty).record (.dropped slot))
  | handed {context client} :
    Turn ticket s (.resolved .handOver context client) (.finished (.ok (.resolved context client))) s
  | rejected {kind request context client failure} (h : Effect.ofRequest kind request = .error failure) :
    Turn ticket s (.resolved (.operate kind request) context client)
      (.answered context client (.error failure)) s
  | worked {kind request context client e} (world : σ) (outcome) (h : Event.IsWork e ticket context client) :
    Turn ticket s (.resolved (.operate kind request) context client) (.answered context client outcome)
      ({ s with world }.record e)
  | working {kind request context client e} (world : σ) (what finish)
      (h : Event.IsWork e ticket context client) :
    Turn ticket s (.resolved (.operate kind request) context client) (.calling what context client finish)
      ({ s with world }.record e)
  | replied {what context client finish} (world : σ) (outcome) (due : Instant) :
    Turn ticket s (.calling what context client finish) (.answered context client outcome)
      { s.atLeast due with world }
  | droppedCall {what context client finish} (failure : Failure) :
    Turn ticket s (.calling what context client finish) (.answered context client (.error failure)) s
  | ended {context client} (outcome : Outcome Json) :
    Turn ticket s (.answered context client outcome) (.finished (outcome.map .value)) s
  | evicted {context client failure} (h : failure.isConnection = true)
      (hc : s.registry.slots (s.registry.current context.id) = .ready client) :
    Turn ticket s (.answered context client (.error failure)) (.finished (.error failure)) (s.evict context.id)

theorem Turn.rank_lt {ticket : Nat} {s s' : State σ κ} {st st' : Stage σ κ} (h : Turn ticket s st st' s') :
    st'.rank < st.rank := by
  cases h with
  | begunAndSettled _ outcome => cases outcome <;> simp [Stage.built, Stage.rank]
  | settled _ outcome => cases outcome <;> simp [Stage.built, Stage.rank]
  | _ => simp [Stage.rank]

def Task.Turns (t : Task σ κ) (s : State σ κ) (next : Task σ κ × State σ κ) : Prop :=
  next.1.ticket = t.ticket ∧ next.1.job = t.job ∧ Turn t.ticket s t.stage next.1.stage next.2

namespace Task

variable (g : Settings) (f : Fleet σ κ) (t : Task σ κ) (s : State σ κ)

theorem lookUp_turns (errand : Errand) (context : Option String) (h : t.stage = .arrived) :
    t.Turns s (t.lookUp s errand context, s) := by
  unfold lookUp
  split
  · exact ⟨rfl, rfl, h ▸ .denied _⟩
  · next x hx => exact ⟨rfl, rfl, h ▸ .selected errand (Contexts.mem_of_select hx).1⟩

theorem arrive_turns (h : t.stage = .arrived) : t.Turns s (t.arrive g s, s) := by
  unfold arrive
  split
  · exact lookUp_turns t s _ _ h
  · split
    · exact ⟨rfl, rfl, h ▸ .denied _⟩
    · exact lookUp_turns _ s _ _ h

theorem connect_turns {errand : Errand} {context : ClusterContext} {slot : SlotId}
    (h : t.stage = .resolving errand context slot) (he : s.registry.slots slot = .empty) :
    t.Turns s (t.connect f s errand context slot) := by
  unfold connect
  rcases f.connect context s.world with ⟨reply, world⟩
  cases reply with
  | now outcome =>
    simp only [connected_eq]
    exact ⟨rfl, rfl, h ▸ .begunAndSettled world outcome he⟩
  | later wait finish => exact ⟨rfl, rfl, h ▸ .begun world _ he⟩
  | never => exact ⟨rfl, rfl, h ▸ .begun world _ he⟩

theorem operate_turns {kind : ResourceKind} {request : Request} {context : ClusterContext} {client : κ}
    (h : t.stage = .resolved (.operate kind request) context client) :
    t.Turns s (t.operate g f s kind request context client) := by
  unfold operate
  split
  · next hr => exact ⟨rfl, rfl, h ▸ .rejected hr⟩
  · next e _ =>
    have he := e.event_isWork t.ticket kind context client
    simp only [perform_eq]
    split
    · exact ⟨rfl, rfl, h ▸ .worked _ _ he⟩
    · exact ⟨rfl, rfl, h ▸ .working _ _ _ he⟩
    · exact ⟨rfl, rfl, h ▸ .working _ _ _ he⟩

theorem abandon_turns : t.Turns s (t.abandon s) ∨ (t.abandon s = (t, s) ∧ t.waits s = false) := by
  unfold abandon
  split
  · next h => exact .inl ⟨rfl, rfl, h ▸ .droppedWait _⟩
  · next h => exact .inl ⟨rfl, rfl, h ▸ .droppedBuild _⟩
  · next h => exact .inl ⟨rfl, rfl, h ▸ .droppedCall _⟩
  · next h₁ h₂ h₃ =>
    refine .inr ⟨rfl, ?_⟩
    unfold waits
    split
    · next h => exact absurd h (h₁ _ _ _)
    · next h => exact absurd h (h₂ _ _ _ _)
    · next h => exact absurd h (h₃ _ _ _ _)
    · rfl

variable [DecidableEq κ]

theorem answer_turns {context : ClusterContext} {client : κ} {outcome : Outcome Json}
    (h : t.stage = .answered context client outcome) : t.Turns s (t.answer s context client outcome) := by
  unfold answer
  cases outcome with
  | ok v => exact ⟨rfl, rfl, h ▸ .ended _⟩
  | error failure =>
    by_cases hf : failure.isConnection = true
    · simp only [hf, if_true, State.invalidateClient_eq]
      split
      · next hc => exact ⟨rfl, rfl, h ▸ .evicted hf hc.2⟩
      · exact ⟨rfl, rfl, h ▸ .ended _⟩
    · simp only [hf]
      exact ⟨rfl, rfl, h ▸ .ended _⟩

/-- A step is a turn, unless the task is done or waits for what it cannot bring about itself. -/
theorem advance_turns :
    t.Turns s (t.advance g f s) ∨ (t.advance g f s = (t, s) ∧ (t.result?.isSome ∨ t.isStuck s = true)) := by
  unfold advance
  split
  · next h => exact .inl (arrive_turns g t s h)
  · next errand context slot h =>
    split
    · next client hs => exact .inl ⟨rfl, rfl, h ▸ .found hs⟩
    · next hs => exact .inr ⟨rfl, .inr (by simp [isStuck, waits, h, hs])⟩
    · next hs => exact .inl (connect_turns f t s h hs)
  · next errand context slot finish h =>
    split
    · exact .inr ⟨rfl, .inr (by simp [isStuck, h])⟩
    · next finish =>
      rcases finish s.world with ⟨outcome, world⟩
      simp only [connected_eq]
      exact .inl ⟨rfl, rfl, h ▸ .settled world outcome t.due⟩
  · next errand context client h =>
    split
    · exact .inl ⟨rfl, rfl, h ▸ .handed⟩
    · exact .inl (operate_turns g f t s h)
  · next what context client finish h =>
    split
    · exact .inr ⟨rfl, .inr (by simp [isStuck, h])⟩
    · exact .inl ⟨rfl, rfl, h ▸ .replied _ _ t.due⟩
  · next context client outcome h => exact .inl (answer_turns t s h)
  · next h => exact .inr ⟨rfl, .inl (by simp [result?, h])⟩

end Task

end ClusterGateway
