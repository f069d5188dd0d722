import ClusterGateway.Operation.Address
import Mathlib

/-!
# Chains of checks

A chain of checks passes exactly if each of them does, in the order in which they stand. Two chains
that go side by side are refused for the same, as long as each check of the one comes to what its
counterpart in the other does.
-/

namespace ClusterGateway.Checked

variable {ε α β : Type}

@[simp] theorem pure_eq_ok_iff {a b : α} : (pure a : Except ε α) = .ok b ↔ a = b := by
  constructor
  · intro h
    cases h
    rfl
  · rintro rfl
    rfl

theorem ok_bind (a : α) (f : α → Except ε β) : (Except.ok a >>= f) = f a := rfl

@[simp] theorem bind_eq_ok_iff {x : Except ε α} {f : α → Except ε β} {b : β} :
    x >>= f = .ok b ↔ ∃ a, x = .ok a ∧ f a = .ok b := by
  constructor
  · intro h
    cases x with
    | error e => cases h
    | ok a => exact ⟨a, rfl, h⟩
  · rintro ⟨a, rfl, h⟩
    exact h

@[simp] theorem map_eq_ok_iff {x : Except ε α} {f : α → β} {b : β} :
    Except.map f x = .ok b ↔ ∃ a, x = .ok a ∧ f a = b := by
  cases x <;> simp [Except.map]

@[simp] theorem guard_eq_ok_iff {c : Prop} [Decidable c] {e : ε} {x : Except ε β} {b : β} :
    (if c then (.error e : Except ε Unit) >>= fun _ => x else x) = .ok b ↔ ¬ c ∧ x = .ok b := by
  split
  · next h => simp [h]
  · next h => simp [h]

/-! ## Side by side -/

/-- Both are refused for the same, or both pass with results that are related. -/
inductive Parallel (R : α → β → Prop) : Except ε α → Except ε β → Prop
  | refused (e : ε) : Parallel R (.error e) (.error e)
  | passed {a : α} {b : β} (h : R a b) : Parallel R (.ok a) (.ok b)

namespace Parallel

variable {γ δ : Type} {R : α → β → Prop} {S : γ → δ → Prop}

theorem same (x : Except ε α) : Parallel Eq x x := by
  cases x with
  | error e => exact .refused e
  | ok a => exact .passed rfl

theorem bind {x : Except ε α} {y : Except ε β} (h : Parallel R x y) {f : α → Except ε γ} {g : β → Except ε δ}
    (hnext : ∀ a b, R a b → Parallel S (f a) (g b)) : Parallel S (x >>= f) (y >>= g) := by
  cases h with
  | refused e => exact .refused e
  | passed h => exact hnext _ _ h

theorem guard {c : Prop} [Decidable c] {e : ε} {x : Except ε γ} {y : Except ε δ} (h : Parallel S x y) :
    Parallel S (if c then (.error e : Except ε Unit) >>= fun _ => x else x)
      (if c then (.error e : Except ε Unit) >>= fun _ => y else y) := by
  split
  · exact .refused e
  · exact h

end Parallel

end ClusterGateway.Checked
