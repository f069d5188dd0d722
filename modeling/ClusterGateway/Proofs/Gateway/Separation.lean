import ClusterGateway.Proofs.Gateway.Footprint

/-!
# The part of a context

Each context has a part of the state to itself: its slots, its events in the journal and, where clusters
answer for a context by what it has to itself, its part of the world. A step for one context depends on the
part of this context, and leaves the parts of all others alone.
-/

namespace ClusterGateway

variable {σ κ τ : Type}

/-! ## Worlds in parts -/

section
variable (view : String → σ → τ) (id : String)

/-- On worlds with the same part here two actions answer alike and leave the same part here, and the first
leaves all other parts as they were. -/
structure Confined {α : Type} (R : α → α → Prop) (act act' : σ → α × σ) : Prop where
  answer {w w' : σ} : view id w = view id w' → R (act w).1 (act' w').1
  part {w w' : σ} : view id w = view id w' → view id (act w).2 = view id (act' w').2
  others (w : σ) {other : String} : other ≠ id → view other (act w).2 = view other w

inductive Reply.Alike {α : Type} : Reply σ α → Reply σ α → Prop
  | now (answer : α) : Alike (.now answer) (.now answer)
  | later (wait : Nat) {finish finish' : σ → α × σ} (h : Confined view id Eq finish finish') :
    Alike (.later wait finish) (.later wait finish')
  | never : Alike .never .never

end

/-- What is answered for a context, by whoever builds its clients, by its clients and by the describe tool,
depends on its own part of the world, and changes no other part. Each client belongs to the context that it
was built for. -/
structure Fleet.Separates (f : Fleet σ κ) (view : String → σ → τ) (owner : κ → String) : Prop where
  connect (context : ClusterContext) :
    Confined view context.id (Reply.Alike view context.id) (f.connect context) (f.connect context)
  call (client : κ) (c : Call) :
    Confined view (owner client) (Reply.Alike view (owner client)) (f.call client c) (f.call client c)
  describe (context : ClusterContext) (kind : ResourceKind) (ns : Option String) (name : String) :
    Confined view context.id (Reply.Alike view context.id) (f.describe context kind ns name)
      (f.describe context kind ns name)
  owned (context : ClusterContext) (w : σ) {client : κ} :
    (f.connect context w).1 = .now (.ok client) → owner client = context.id
  ownedLater (context : ClusterContext) (w w' : σ) {wait : Nat} {finish : σ → Outcome κ × σ} {client : κ} :
    (f.connect context w).1 = .later wait finish → (finish w').1 = .ok client → owner client = context.id

theorem Fleet.Separates.owned_of_await? {f : Fleet σ κ} {view : String → σ → τ} {owner : κ → String}
    (hf : f.Separates view owner) (context : ClusterContext) (w : σ) {client : κ} {w' : σ}
    (h : (f.connect context w).1.await? (f.connect context w).2 = some (.ok client, w')) :
    owner client = context.id := by
  cases hreply : (f.connect context w).1 with
  | now outcome =>
    rw [hreply] at h
    cases h
    exact hf.owned context w hreply
  | later wait finish =>
    rw [hreply] at h
    exact hf.ownedLater context w _ hreply (congrArg Prod.fst (Option.some.inj h))
  | never =>
    rw [hreply] at h
    cases h

namespace Reply.Alike

variable {α β : Type} {view : String → σ → τ} {id : String} {r r' : Reply σ α}

theorem map (h : r.Alike view id r') (g : α → β) : (r.map g).Alike view id (r'.map g) := by
  cases h with
  | now answer => exact .now _
  | later wait h => exact .later wait ⟨fun hw => congrArg g (h.answer hw), h.part, h.others⟩
  | never => exact .never

end Reply.Alike

theorem Effect.start_confined {f : Fleet σ κ} {view : String → σ → τ} {owner : κ → String}
    (hf : f.Separates view owner) (kind : ResourceKind) (context : ClusterContext) {client : κ}
    (hclient : owner client = context.id) (e : Effect) :
    Confined view context.id (Reply.Alike view context.id) (e.start f kind context client)
      (e.start f kind context client) := by
  cases e with
  | call c => exact hclient ▸ hf.call client c
  | describe ns name =>
    have h := hf.describe context kind ns name
    exact ⟨fun hw => (h.answer hw).map _, h.part, h.others⟩

/-! ## The part of a state -/

def Event.isOf (owner : κ → String) (id : String) : Event κ → Bool
  | .connecting slot | .connected slot _ | .refused slot _ | .dropped slot | .evicted slot => slot.context = id
  | .called _ client _ => owner client = id
  | .described _ context _ _ _ => context.id = id

def Event.anonymous : Event κ → Event κ
  | .called _ client call => .called 0 client call
  | .described _ context kind ns name => .described 0 context kind ns name
  | e => e

theorem Event.isOf_anonymous (owner : κ → String) (id : String) (e : Event κ) :
    e.anonymous.isOf owner id = e.isOf owner id := by
  cases e <;> rfl

namespace State

/-- The constructions, the calls and the evictions of a context, latest first. -/
def eventsOf (owner : κ → String) (id : String) (s : State σ κ) : List (Event κ) :=
  (s.journal.filter (·.isOf owner id)).map Event.anonymous

structure AgreeAt (view : String → σ → τ) (owner : κ → String) (id : String) (s s' : State σ κ) : Prop where
  registry : s.registry.SameAt s'.registry id
  world : view id s'.world = view id s.world
  events : s'.eventsOf owner id = s.eventsOf owner id

/-- On the way from one state to the other the parts of all contexts but this one have stayed. -/
def Spares (view : String → σ → τ) (owner : κ → String) (id : String) (s s' : State σ κ) : Prop :=
  ∀ other, other ≠ id → s.AgreeAt view owner other s'

def Owned (owner : κ → String) (id : String) (s : State σ κ) : Prop :=
  ∀ slot client, slot.context = id → s.registry.slots slot = .ready client → owner client = id

variable {view : String → σ → τ} {owner : κ → String} {id : String}

namespace AgreeAt

variable {s s' s'' : State σ κ}

theorem refl (s : State σ κ) : s.AgreeAt view owner id s := ⟨.refl _ _, rfl, rfl⟩

theorem trans (h : s.AgreeAt view owner id s') (h' : s'.AgreeAt view owner id s'') : s.AgreeAt view owner id s'' :=
  ⟨h.registry.trans h'.registry, h'.world.trans h.world, h'.events.trans h.events⟩

theorem record (h : s.AgreeAt view owner id s') {e e' : Event κ} (he : e'.anonymous = e.anonymous) :
    (s.record e).AgreeAt view owner id (s'.record e') := by
  refine ⟨h.registry, h.world, ?_⟩
  have hof : e'.isOf owner id = e.isOf owner id := by
    rw [← e.isOf_anonymous, ← e'.isOf_anonymous, he]
  have hevents := h.events
  unfold eventsOf at hevents ⊢
  simp only [journal_record, List.filter_cons, hof]
  split
  · rw [List.map_cons, List.map_cons, he, hevents]
  · exact hevents

theorem put (h : s.AgreeAt view owner id s') (slot : SlotId) (content : Slot κ) :
    (s.put slot content).AgreeAt view owner id (s'.put slot content) := by
  refine ⟨⟨h.registry.generation, fun other hother => ?_⟩, h.world, h.events⟩
  by_cases hslot : other = slot
  · rw [hslot, registry_put, registry_put, Registry.slots_put_self, Registry.slots_put_self]
  · rw [registry_put, registry_put, Registry.slots_put_of_ne _ _ hslot, Registry.slots_put_of_ne _ _ hslot]
    exact h.registry.slots other hother

theorem inWorld (h : s.AgreeAt view owner id s') {w w' : σ} (hw : view id w' = view id w) :
    ({ s with world := w } : State σ κ).AgreeAt view owner id { s' with world := w' } :=
  ⟨h.registry, hw, h.events⟩

theorem atLeast (h : s.AgreeAt view owner id s') (moment moment' : Instant) :
    (s.atLeast moment).AgreeAt view owner id (s'.atLeast moment') :=
  ⟨h.registry, h.world, h.events⟩

theorem settle (h : s.AgreeAt view owner id s') (slot : SlotId) (outcome : Outcome κ) :
    (s.settle slot outcome).AgreeAt view owner id (s'.settle slot outcome) := by
  cases outcome with
  | ok client => exact (h.put slot _).record rfl
  | error failure => exact (h.put slot _).record rfl

theorem current (h : s.AgreeAt view owner id s') : s'.registry.current id = s.registry.current id := by
  rw [Registry.current, Registry.current, h.registry.generation]

theorem evict (h : s.AgreeAt view owner id s') : (s.evict id).AgreeAt view owner id (s'.evict id) := by
  have hevict : ({ s with registry := s.registry.evict id } : State σ κ).AgreeAt view owner id
      { s' with registry := s'.registry.evict id } := by
    refine ⟨⟨?_, h.registry.slots⟩, h.world, h.events⟩
    rw [Registry.generation_evict, Registry.generation_evict, h.registry.generation]
  refine hevict.record ?_
  rw [h.current]

end AgreeAt

/-! ## Other contexts -/

namespace Spares

variable {s s' s'' : State σ κ}

theorem refl (s : State σ κ) : s.Spares view owner id s := fun _ _ => .refl s

theorem trans (h : s.Spares view owner id s') (h' : s'.Spares view owner id s'') : s.Spares view owner id s'' :=
  fun other hne => (h other hne).trans (h' other hne)

theorem record (s : State σ κ) {e : Event κ} (he : ∀ other, other ≠ id → e.isOf owner other = false) :
    s.Spares view owner id (s.record e) := by
  refine fun other hne => ⟨.refl _ _, rfl, ?_⟩
  simp only [eventsOf, journal_record, List.filter_cons, he other hne]
  rfl

theorem put (s : State σ κ) {slot : SlotId} (hslot : slot.context = id) (content : Slot κ) :
    s.Spares view owner id (s.put slot content) :=
  fun _ hne => ⟨.put (fun hcontext => hne (hcontext.symm.trans hslot)) _ _, rfl, rfl⟩

theorem inWorld (s : State σ κ) {w : σ} (hw : ∀ other, other ≠ id → view other w = view other s.world) :
    s.Spares view owner id { s with world := w } :=
  fun other hne => ⟨.refl _ _, hw other hne, rfl⟩

theorem atLeast (s : State σ κ) (moment : Instant) : s.Spares view owner id (s.atLeast moment) :=
  fun _ _ => ⟨.refl _ _, rfl, rfl⟩

theorem evict (s : State σ κ) : s.Spares view owner id (s.evict id) := by
  have hregistry : s.Spares view owner id { s with registry := s.registry.evict id } :=
    fun other hne => ⟨.evict hne _, rfl, rfl⟩
  refine hregistry.trans (record _ fun other hne => ?_)
  exact decide_eq_false (Ne.symm hne)

theorem settle (s : State σ κ) {slot : SlotId} (hslot : slot.context = id) (outcome : Outcome κ) :
    s.Spares view owner id (s.settle slot outcome) := by
  have hof : ∀ other, other ≠ id → decide (slot.context = other) = false :=
    fun other hne => decide_eq_false fun hcontext => hne (hcontext.symm.trans hslot)
  cases outcome with
  | ok client => exact (put s hslot _).trans (record _ hof)
  | error failure => exact (put s hslot _).trans (record _ hof)

end Spares

namespace Owned

variable {s : State σ κ}

theorem put (h : s.Owned owner id) (slot : SlotId) {content : Slot κ}
    (hc : ∀ client, content = .ready client → owner client = id) : (s.put slot content).Owned owner id := by
  intro other client hother hready
  by_cases hslot : other = slot
  · rw [hslot, registry_put, Registry.slots_put_self] at hready
    exact hc client hready
  · rw [registry_put, Registry.slots_put_of_ne _ _ hslot] at hready
    exact h other client hother hready

theorem settle (h : s.Owned owner id) (slot : SlotId) {outcome : Outcome κ}
    (ho : ∀ client, outcome = .ok client → owner client = id) : (s.settle slot outcome).Owned owner id := by
  cases outcome with
  | ok client =>
    refine h.put slot fun c hc => ho c ?_
    cases hc
    rfl
  | error failure => exact h.put slot fun c hc => by cases hc

end Owned

end State

end ClusterGateway
