import ClusterGateway.Gateway.State

/-!
# Histories of a registry

A journal determines its registry: an event says what becomes of a slot or of a context, and may
come only where the slot is fit for it. A history is a journal in which every event may come.
-/

namespace ClusterGateway

namespace Registry

variable {κ : Type}

def blank (contexts : Contexts) : Registry κ := ⟨contexts, fun _ => 0, fun _ => .empty⟩

def apply (r : Registry κ) : Event κ → Registry κ
  | .connecting s => r.put s .building
  | .connected s client => r.put s (.ready client)
  | .refused s _ => r.put s .empty
  | .dropped s => r.put s .empty
  | .evicted s => r.evict s.context
  | .called _ _ _ => r
  | .described _ _ _ _ _ => r

def Allows (r : Registry κ) : Event κ → Prop
  | .connecting s => r.slots s = .empty ∧ s.generation ≤ r.generation s.context
  | .connected s _ => r.slots s = .building
  | .refused s _ => r.slots s = .building
  | .dropped s => r.slots s = .building
  | .evicted s => s = r.current s.context
  | .called _ _ _ => True
  | .described _ _ _ _ _ => True

/-- The events, latest first, lead from one registry to another. -/
inductive History (r₀ : Registry κ) : List (Event κ) → Registry κ → Prop
  | start : History r₀ [] r₀
  | next {es r e} : History r₀ es r → r.Allows e → History r₀ (e :: es) (r.apply e)

namespace History

variable {r₀ r r' : Registry κ} {es es' : List (Event κ)}

theorem trans (h : History r₀ es r) (h' : History r es' r') : History r₀ (es' ++ es) r' := by
  induction h' with
  | start => exact h
  | next _ ha ih => exact .next ih ha

theorem single {e : Event κ} (h : r.Allows e) : History r [e] (r.apply e) := .next .start h

theorem contexts_eq (h : History r₀ es r) : r.contexts = r₀.contexts := by
  induction h with
  | start => rfl
  | @next es r e _ _ ih => cases e <;> exact ih

theorem generation_le (h : History r₀ es r) (id : String) : r₀.generation id ≤ r.generation id := by
  induction h with
  | start => exact Nat.le_refl _
  | @next es r e _ _ ih =>
    cases e with
    | evicted s =>
      refine Nat.le_trans ih ?_
      rw [apply, generation_evict]
      exact Nat.le_add_right _ _
    | _ => exact ih

theorem ready (h : History r₀ es r) {s : SlotId} {client : κ} (hs : r₀.slots s = .ready client) :
    r.slots s = .ready client := by
  induction h with
  | start => exact hs
  | @next es r e _ ha ih =>
    -- an event on this slot would have found it empty or under construction
    have other : ∀ t slot, r.slots t ≠ .ready client → (r.put t slot).slots s = .ready client := by
      intro t slot ht
      have hne : s ≠ t := fun hst => ht (hst ▸ ih)
      rw [slots_put_of_ne r slot hne]
      exact ih
    cases e with
    | connecting t => exact other t _ (by rw [ha.1]; simp)
    | connected t c => exact other t _ (by rw [show r.slots t = _ from ha]; simp)
    | refused t f => exact other t _ (by rw [show r.slots t = _ from ha]; simp)
    | dropped t => exact other t _ (by rw [show r.slots t = _ from ha]; simp)
    | _ => exact ih

end History

end Registry

end ClusterGateway
