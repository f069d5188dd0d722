import ClusterGateway.Proofs.Operation.Accepted
import ClusterGateway.Proofs.Operation.Plan

/-!
# Addresses of planned effects

Wherever a request has its name and its namespace from, its effect is planned for a name and a
namespace that were checked, and for a namespace exactly if the kind has them.
-/

namespace ClusterGateway

namespace Address

def Placed (r : ResourceKind) (ns : Option String) : Prop :=
  (r.isNamespaced = true ∧ ∃ n, ns = some n ∧ IsLabel n) ∨ (r.isNamespaced = false ∧ ns = none)

theorem placed_of_targetNamespace {r : ResourceKind} {ns t : Option String}
    (h : targetNamespace r ns = .ok t) : Placed r t := by
  rcases targetNamespace_eq_ok_iff.mp h with ⟨hr, n, rfl, -, hn⟩ | ⟨hr, rfl⟩
  · exact .inl ⟨hr, n, rfl, hn⟩
  · exact .inr ⟨hr, rfl⟩

end Address

theorem Manifest.Lives.placed {r : ResourceKind} {payload : Json} {requested ns : Option String}
    (h : Lives r payload requested ns) : Address.Placed r ns := by
  rcases h with ⟨hr, n, rfl, -, hn⟩ | ⟨hr, rfl⟩
  · exact .inl ⟨hr, n, rfl, hn⟩
  · exact .inr ⟨hr, rfl⟩

namespace Effect

open Address

def ns : Effect → Option String
  | .call c => c.ns
  | .describe ns _ => ns

/-- The name that an effect is about; an object to be created may have one in its metadata. -/
def name? : Effect → Option String
  | .call c => c.action.name?.or (c.action.body?.bind (Manifest.metadata? · "name"))
  | .describe _ name => some name

/-- The address is one that was checked, and it has the parts that the kind and the verb ask for. -/
structure Addressed (r : ResourceKind) (q : Request) (e : Effect) : Prop where
  name : ∀ name, e.name? = some name → IsObjectName name
  label : ∀ ns, e.ns = some ns → IsLabel ns
  needed : r.isNamespaced = true → e.verb ≠ .list → e.ns ≠ none
  unneeded : r.isNamespaced = false → e.ns = none
  /-- All namespaces are listed only for who names none. -/
  all : r.isNamespaced = true → e.verb = .list → e.ns = none → ∀ s, q.ns = some s → Text.isBlankText s = true

theorem addressed_of_placed {r : ResourceKind} {e : Effect} (q : Request) (hns : Placed r e.ns)
    (hname : ∀ name, e.name? = some name → IsObjectName name) (hv : e.verb ≠ .list) : e.Addressed r q := by
  rcases hns with ⟨hr, n, hn, hlabel⟩ | ⟨hr, hn⟩
  · refine ⟨hname, fun ns h => ?_, fun _ _ h => ?_, fun h => ?_, fun _ h => absurd h hv⟩
    · rw [hn] at h
      cases h
      exact hlabel
    · rw [hn] at h
      cases h
    · rw [hr] at h
      cases h
  · refine ⟨hname, fun ns h => ?_, fun h => ?_, fun _ => hn, fun _ h => absurd h hv⟩
    · rw [hn] at h
      cases h
    · rw [hr] at h
      cases h

theorem addressed_of_target {r : ResourceKind} {e : Effect} (q : Request) {ns found : Option String} {name : String}
    (hns : targetNamespace r ns = .ok e.ns) (hname : targetName r found = .ok name) (he : e.name? = some name)
    (hv : e.verb ≠ .list) : e.Addressed r q := by
  refine addressed_of_placed q (placed_of_targetNamespace hns) (fun n hn => ?_) hv
  obtain rfl : name = n := Option.some.inj (he.symm.trans hn)
  exact (targetName_eq_ok_iff.mp hname).2

variable (r : ResourceKind) (q : Request)

theorem planList_addressed : (planList r q).Yields (Addressed r q) := by
  intro e h
  obtain ⟨ns, hns, rfl⟩ := planList_eq_ok_iff.mp h
  rcases listNamespace_eq_ok_iff.mp hns with ⟨hr, hq, hlabel⟩ | ⟨hr, rfl⟩
  · refine ⟨nofun, hlabel, fun _ h => absurd rfl h, fun h => ?_, fun _ _ h => ?_⟩
    · rw [hr] at h
      cases h
    · rw [← Text.nonBlank?_eq_none_iff, hq]
      exact h
  · refine ⟨nofun, nofun, fun h => ?_, fun _ => rfl, fun h => ?_⟩
    · rw [hr] at h
      cases h
    · rw [hr] at h
      cases h

theorem planGet_addressed : (planGet r q).Yields (Addressed r q) := by
  intro e h
  obtain ⟨ns, name, hns, hname, rfl⟩ := planGet_eq_ok_iff.mp h
  exact addressed_of_target q hns hname rfl nofun

theorem planDescribe_addressed : (planDescribe r q).Yields (Addressed r q) := by
  intro e h
  obtain ⟨ns, name, hns, hname, rfl⟩ := planDescribe_eq_ok_iff.mp h
  exact addressed_of_target q hns hname rfl nofun

theorem planDelete_addressed : (planDelete r q).Yields (Addressed r q) := by
  intro e h
  obtain ⟨name, ns, hname, hns, rfl⟩ := planDelete_eq_ok_iff.mp h
  exact addressed_of_target q hns hname rfl nofun

theorem planCreate_addressed : (planCreate r q).Yields (Addressed r q) := by
  intro e h
  obtain ⟨payload, ns, body, -, hprepare, hname, -, rfl⟩ := planCreate_eq_ok_iff.mp h
  exact addressed_of_placed q (Manifest.prepare_eq_ok hprepare).2.1.placed hname nofun

theorem planUpdate_addressed : (planUpdate r q).Yields (Addressed r q) := by
  intro e h
  obtain ⟨payload, ns, body, name, -, -, hprepare, -, hname, -, -, rfl⟩ := planUpdate_eq_ok_iff.mp h
  refine addressed_of_placed q (Manifest.prepare_eq_ok hprepare).2.1.placed (fun n hn => ?_) nofun
  cases hn
  exact hname

theorem plan_addressed : (plan r q).Yields (Addressed r q) := by
  unfold plan
  cases q.verb with
  | list => exact planList_addressed r q
  | get => exact planGet_addressed r q
  | describe => exact planDescribe_addressed r q
  | create => exact planCreate_addressed r q
  | update => exact planUpdate_addressed r q
  | delete => exact planDelete_addressed r q

end Effect

end ClusterGateway
