import ClusterGateway.Proofs.Gateway.Worlds
import ClusterGateway.Proofs.Operation.SameObject

/-!
# Clusters that keep versions

What has to be true of clusters for a version to guard an object: a replacement succeeds only at the
version that is stored, and a write gives the object a version that it never had.
-/

namespace ClusterGateway

variable {σ κ π : Type}

/-- The versions of the objects behind the clients. Several clients may reach one cluster, so an object
has a place of its own. -/
structure Versioning (σ κ π : Type) where
  up : σ → Prop
  place : κ → ObjectKey → π
  version? : π → σ → Option String
  used : π → String → σ → Prop

namespace Versioning

variable (V : Versioning σ κ π)

/-- Used versions stay used, and an object has the version that it had or one never used before. -/
structure Evolves (w w' : σ) : Prop where
  used : ∀ o t, V.used o t w → V.used o t w'
  fresh : ∀ o t, V.version? o w' = some t → V.version? o w = some t ∨ ¬ V.used o t w

/-- The object had the version, and was written with one never used before. -/
structure Swaps (o : π) (t : String) (w w' : σ) : Prop where
  had : V.version? o w = some t
  has : ∃ t', V.version? o w' = some t' ∧ ¬ V.used o t' w

/-- If the reply is a success, the object has been replaced at the version, be it when this was asked
for or when it was waited for. -/
structure Replaces (o : π) (t : String) (w : σ) (r : Reply σ (Outcome Json) × σ) : Prop where
  now : ∀ a, r.1 = .now (.ok a) → V.Swaps o t w r.2
  later : ∀ wait finish, r.1 = .later wait finish → ∀ w' a, V.up w' → (finish w').1 = .ok a →
    V.Swaps o t w r.2 ∨ V.Swaps o t w' (finish w').2

end Versioning

structure Fleet.Guards (f : Fleet σ κ) (V : Versioning σ κ π) : Prop where
  stored {o t w} : V.up w → V.version? o w = some t → V.used o t w
  connect context {w} : V.up w → Reply.GoesOn V.up V.Evolves w (f.connect context w)
  call client c {w} : V.up w → Reply.GoesOn V.up V.Evolves w (f.call client c w)
  describe context kind ns name {w} : V.up w → Reply.GoesOn V.up V.Evolves w (f.describe context kind ns name w)
  replace client resource ns name {body t w} : V.up w → Manifest.field? body "resourceVersion" = some (.str t) →
    V.Replaces (V.place client ⟨resource, ns, name⟩) t w (f.call client ⟨resource, ns, .replace name body⟩ w)

namespace Versioning

variable {V : Versioning σ κ π} {f : Fleet σ κ} {a b c : σ} {o : π} {t : String}

theorem Evolves.refl (w : σ) : V.Evolves w w := ⟨fun _ _ h => h, fun _ _ h => .inl h⟩

theorem Evolves.trans (h : V.Evolves a b) (h' : V.Evolves b c) : V.Evolves a c := by
  refine ⟨fun o t hu => h'.used o t (h.used o t hu), fun o t hv => ?_⟩
  rcases h'.fresh o t hv with hv | hu
  · exact h.fresh o t hv
  · exact .inr fun hu' => hu (h.used o t hu')

theorem Swaps.version?_ne (hf : f.Guards V) (ha : V.up a) (h : V.Swaps o t a b) (hab : V.Evolves a b)
    (hbc : V.Evolves b c) : V.version? o c ≠ some t := by
  obtain ⟨t', hhas, hnew⟩ := h.has
  have hused := hf.stored ha h.had
  intro hc
  rcases hbc.fresh o t hc with hb | hb
  · obtain rfl : t' = t := Option.some.inj (hhas.symm.trans hb)
    exact hnew hused
  · exact hb (hab.used o t hused)

end Versioning

theorem Fleet.Guards.goesOn {f : Fleet σ κ} {V : Versioning σ κ π} (hf : f.Guards V) : f.GoesOn V.up V.Evolves where
  refl := .refl
  trans := .trans
  connect := hf.connect
  call := hf.call
  describe := hf.describe

end ClusterGateway
