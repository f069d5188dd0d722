import ClusterGateway.Proofs.Gateway.Alone
import ClusterGateway.Proofs.Operation.SameObject

/-!
# Clusters that keep objects

What has to be true of clusters for an object to be found where it was put. It is said of calls that
are waited for, however long that takes; what is in time for a deadline is another matter.
-/

namespace ClusterGateway

variable {σ κ : Type}

/-! ## Replies in time -/

namespace Reply

variable {α β : Type} {reply : Reply σ α} {deadline : Option Instant} {clock : Instant} {world : σ}

def InTime (reply : Reply σ α) (deadline : Option Instant) (clock : Instant) : Prop :=
  match reply with
  | .now _ => True
  | .later wait _ => ∀ d, deadline = some d → clock < d ∧ clock + wait ≤ d
  | .never => False

theorem await?_map (f : α → β) (reply : Reply σ α) (world : σ) :
    (reply.map f).await? world = (reply.await? world).map fun (a, world) => (f a, world) := by
  cases reply <;> rfl

theorem InTime.map (h : reply.InTime deadline clock) (f : α → β) : (reply.map f).InTime deadline clock := by
  cases reply <;> exact h

theorem await?_of_awaitUntil {a : α} {w : σ} (h : reply.awaitUntil deadline clock world = .answered a w) :
    reply.await? world = some (a, w) := by
  cases reply with
  | now answer =>
    cases h
    rfl
  | later wait finish =>
    simp only [awaitUntil] at h
    split at h
    · cases h
    · cases h
      rfl
  | never =>
    simp only [awaitUntil] at h
    split at h <;> cases h

theorem awaitUntil_of_await? {a : α} {w : σ} (h : reply.await? world = some (a, w)) :
    reply.awaitUntil none clock world = .answered a w := by
  cases reply with
  | now answer =>
    cases h
    rfl
  | later wait finish =>
    have hfinish : finish world = (a, w) := Option.some.inj h
    simp only [awaitUntil, Option.filter_none, hfinish]
  | never => cases h

theorem InTime.awaitUntil (h : reply.InTime deadline clock) (world : σ) :
    ∃ a w, reply.await? world = some (a, w) ∧ reply.awaitUntil deadline clock world = .answered a w := by
  cases reply with
  | now answer => exact ⟨answer, world, rfl, rfl⟩
  | later wait finish =>
    have hnone : (deadline.filter fun d => d ≤ clock ∨ d < clock + wait) = none := by
      rw [Option.filter_eq_none_iff]
      intro d hd
      obtain ⟨hlt, hle⟩ := h d hd
      rw [decide_eq_true_eq]
      rintro (h' | h')
      · exact absurd hlt (Nat.not_lt.mpr h')
      · exact absurd h' (Nat.not_lt.mpr hle)
    refine ⟨(finish world).1, (finish world).2, rfl, ?_⟩
    simp only [Reply.awaitUntil, hnone]
  | never => exact h.elim

end Reply

/-! ## Clusters that keep objects -/

namespace Fleet

/-- What a call comes to when it is waited for, and the world after it. -/
def answer? (f : Fleet σ κ) (client : κ) (c : Call) (world : σ) : Option (Outcome Json × σ) :=
  (f.call client c world).1.await? (f.call client c world).2

/-- As long as the clusters are up, each keeps objects under their keys. What a client finds under a
key is `object`. -/
structure Keeps (f : Fleet σ κ) (up : σ → Prop) (object : κ → ObjectKey → σ → Option Json) : Prop where
  connected {context outcome world world'} (hup : up world)
    (h : (f.connect context world).1.await? (f.connect context world).2 = some (outcome, world')) : up world'
  created {client resource ns name body v world world'} (hup : up world)
    (hname : Manifest.metadata? body "name" = some name)
    (h : f.answer? client ⟨resource, ns, .create body⟩ world = some (.ok v, world')) :
    up world' ∧ ∃ stored, object client ⟨resource, ns, name⟩ world' = some stored
  got {client resource ns name stored outcome world world'} (hup : up world)
    (hstored : object client ⟨resource, ns, name⟩ world = some stored)
    (h : f.answer? client ⟨resource, ns, .get name⟩ world = some (outcome, world')) : outcome = .ok stored
  deleted {client resource ns name v world world'} (hup : up world)
    (h : f.answer? client ⟨resource, ns, .delete name⟩ world = some (.ok v, world')) :
    up world' ∧ object client ⟨resource, ns, name⟩ world' = none
  missing {client resource ns name outcome world world'} (hup : up world)
    (hmissing : object client ⟨resource, ns, name⟩ world = none)
    (h : f.answer? client ⟨resource, ns, .delete name⟩ world = some (outcome, world')) :
    ∃ text, outcome = .error (.notFound text)

end Fleet

end ClusterGateway
