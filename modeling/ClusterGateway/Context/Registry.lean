import ClusterGateway.Context.Basic
import ClusterGateway.Failure
import ClusterGateway.Text.Blank
import ClusterGateway.Text.Quoted

/-!
# The registry of contexts

Which contexts there are never changes after the start. What changes is where the client of a
context is kept: each eviction moves the context on to a fresh slot, and who still holds the
old one goes on with it unseen. A slot is empty, has one construction under way, or holds a
client for good.
-/

namespace ClusterGateway

structure Contexts where
  first : ClusterContext
  named : List ClusterContext
  distinct : ((first :: named).map (·.id)).Nodup

namespace Contexts

def all (c : Contexts) : List ClusterContext := c.first :: c.named

def ids (c : Contexts) : List String := c.all.map (·.id)

def find? (c : Contexts) (id : String) : Option ClusterContext :=
  c.all.find? fun x => x.id == id

def firstRepeat? (before : List String) : List String → Option String
  | [] => none
  | id :: rest => if id ∈ before then some id else firstRepeat? (id :: before) rest

theorem firstRepeat?_eq_none {before ids : List String} (h : firstRepeat? before ids = none) :
    (∀ id ∈ ids, id ∉ before) ∧ ids.Nodup := by
  induction ids generalizing before with
  | nil => simp
  | cons id rest ih =>
    by_cases hm : id ∈ before
    · simp [firstRepeat?, hm] at h
    · simp only [firstRepeat?, hm, if_false] at h
      have ⟨hb, hn⟩ := ih h
      refine ⟨fun x hx => ?_, List.nodup_cons.2 ⟨fun hr => hb id hr (by simp), hn⟩⟩
      cases hx with
      | head => exact hm
      | tail _ hx => exact fun hxb => hb x hx (by simp [hxb])

theorem nodup_of_firstRepeat? {id : String} {ids : List String}
    (h : firstRepeat? [id] ids = none) : (id :: ids).Nodup :=
  have ⟨hb, hn⟩ := firstRepeat?_eq_none h
  List.nodup_cons.2 ⟨fun hi => hb id hi (by simp), hn⟩

def ofList (first : ClusterContext) (named : List ClusterContext) : Except String Contexts :=
  match h : firstRepeat? [first.id] (named.map (·.id)) with
  | some id => .error id
  | none => .ok ⟨first, named, by simpa using nodup_of_firstRepeat? h⟩

/-- The id that a request names: blanks around it are dropped, and none at all is the first. -/
def named? (c : Contexts) (id : Option String) : String :=
  (Text.nonBlank? id).getD c.first.id

def select (c : Contexts) (id : Option String) : Outcome ClusterContext :=
  match c.find? (c.named? id) with
  | some x => .ok x
  | none => .error (.unknownContext (c.named? id))

end Contexts

/-- A slot of a context, counted by the evictions before it. -/
structure SlotId where
  context : String
  generation : Nat
  deriving DecidableEq, Repr

inductive Slot (κ : Type) where
  | empty
  | building
  | ready (client : κ)
  deriving DecidableEq, Repr

structure Registry (κ : Type) where
  contexts : Contexts
  generation : String → Nat
  slots : SlotId → Slot κ

namespace Registry

variable {κ : Type}

/-- At the start only the client of the first context is there. -/
def start (contexts : Contexts) (client : κ) : Registry κ where
  contexts := contexts
  generation _ := 0
  slots s := if s = ⟨contexts.first.id, 0⟩ then .ready client else .empty

def current (r : Registry κ) (id : String) : SlotId := ⟨id, r.generation id⟩

def put (r : Registry κ) (s : SlotId) (slot : Slot κ) : Registry κ :=
  { r with slots := fun t => if t = s then slot else r.slots t }

def evict (r : Registry κ) (id : String) : Registry κ :=
  { r with generation := fun other => if other = id then r.generation id + 1 else r.generation other }

/-- Whether there is a context with exactly this id, and the registry with it on a fresh slot. -/
def invalidate (r : Registry κ) (id : String) : Bool × Registry κ :=
  if (r.contexts.find? id).isSome then (true, r.evict id) else (false, r)

/-- As `invalidate`, but only while the context still holds this very client. -/
def invalidateClient [DecidableEq κ] (r : Registry κ) (id : String) (failed : κ) : Bool × Registry κ :=
  if (r.contexts.find? id).isSome ∧ r.slots (r.current id) = .ready failed then (true, r.evict id)
  else (false, r)

def summaries (r : Registry κ) : List Json := r.contexts.all.map (·.summary)

def describe (r : Registry κ) : String :=
  let ids := ", ".intercalate (r.contexts.ids.map Text.quoted)
  "ContextRegistry \x7b default_id: " ++ Text.quoted r.contexts.first.id ++ ", order: [" ++ ids ++ "], .. \x7d"

@[simp] theorem slots_put_self (r : Registry κ) (s : SlotId) (slot : Slot κ) : (r.put s slot).slots s = slot := by
  simp [put]

theorem slots_put_of_ne (r : Registry κ) {s t : SlotId} (slot : Slot κ) (h : t ≠ s) :
    (r.put s slot).slots t = r.slots t := by
  simp [put, h]

theorem put_put (r : Registry κ) (s : SlotId) (a b : Slot κ) : (r.put s a).put s b = r.put s b := by
  simp only [put, mk.injEq, true_and]
  funext t
  by_cases h : t = s <;> simp [h]

@[simp] theorem generation_put (r : Registry κ) (s : SlotId) (slot : Slot κ) :
    (r.put s slot).generation = r.generation := rfl

@[simp] theorem contexts_put (r : Registry κ) (s : SlotId) (slot : Slot κ) :
    (r.put s slot).contexts = r.contexts := rfl

@[simp] theorem slots_evict (r : Registry κ) (id : String) : (r.evict id).slots = r.slots := rfl

@[simp] theorem contexts_evict (r : Registry κ) (id : String) : (r.evict id).contexts = r.contexts := rfl

theorem generation_evict (r : Registry κ) (id other : String) :
    (r.evict id).generation other = r.generation other + if other = id then 1 else 0 := by
  unfold evict
  by_cases h : other = id <;> simp [h]

@[simp] theorem contexts_invalidate (r : Registry κ) (id : String) :
    (r.invalidate id).2.contexts = r.contexts := by
  unfold invalidate; split <;> rfl

end Registry

def ClusterContext.describeResolved (c : ClusterContext) : String :=
  "ResolvedContext \x7b context: " ++ Text.quoted c.id ++ ", .. \x7d"

end ClusterGateway
