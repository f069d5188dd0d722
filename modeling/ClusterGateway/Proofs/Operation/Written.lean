import ClusterGateway.Proofs.Operation.Accepted
import ClusterGateway.Proofs.Operation.Plan

/-!
# What planned writes hold

A creation and a replacement carry the payload as it was handed in, but for its type and its
namespace, and both tell the address that the call goes to.
-/

namespace ClusterGateway.Effect

open Manifest

/-- The call writes the payload, to the address that its body tells. -/
structure Writes (r : ResourceKind) (q : Request) (payload : Json) (c : Call) (body : Json) : Prop where
  suits : Suits r payload
  lives : Lives r payload q.ns c.ns
  settles : Settles r payload c.ns body
  name : ∀ name, c.action.name? = some name → field? body "name" = some (.str name)
  /-- A replacement is of the object that the request names, if it names one. -/
  requested : ∀ name, c.action.name? = some name → ∀ s, q.name = some s → Text.isBlankText s = false →
    Text.trim s = name
  version : c.action.name? ≠ none → ∃ version, version ≠ "" ∧
    field? payload "resourceVersion" = some (.str version) ∧ field? body "resourceVersion" = some (.str version)

def WritesPayload (r : ResourceKind) (q : Request) (e : Effect) : Prop :=
  ∀ c body, e = .call c → c.action.body? = some body → ∃ payload, q.payload = some payload ∧
    Writes r q payload c body

variable (r : ResourceKind) (q : Request)

theorem planCreate_writes : (planCreate r q).Yields (WritesPayload r q) := by
  intro e h
  obtain ⟨payload, ns, body, hq, hprepare, -, -, rfl⟩ := planCreate_eq_ok_iff.mp h
  obtain ⟨hsuits, hlives, hsettles⟩ := prepare_eq_ok hprepare
  intro c body' hc hbody
  cases hc
  cases hbody
  exact ⟨payload, hq, hsuits, hlives, hsettles, nofun, nofun, fun h => absurd rfl h⟩

theorem planUpdate_writes : (planUpdate r q).Yields (WritesPayload r q) := by
  intro e h
  obtain ⟨payload, ns, body, name, version, hq, hprepare, hname, -, hversion, hrequested, rfl⟩ :=
    planUpdate_eq_ok_iff.mp h
  obtain ⟨hsuits, hlives, hsettles⟩ := prepare_eq_ok hprepare
  obtain ⟨hv, hne⟩ := metadata?_eq_some_iff.mp hversion
  intro c body' hc hbody
  cases hc
  cases hbody
  refine ⟨payload, hq, hsuits, hlives, hsettles, fun n hn => ?_, fun n hn s hs hblank => ?_, fun _ => ?_⟩
  · cases hn
    exact (metadata?_eq_some_iff.mp hname).1
  · cases hn
    refine hrequested _ ?_
    rw [hs, Text.nonBlank?_of_not_blank hblank]
  · exact ⟨version, hne, hsettles.metadata "resourceVersion" (by decide) ▸ hv, hv⟩

theorem writesPayload_of_verb {e : Effect} (hc : e.verb ≠ .create) (hu : e.verb ≠ .update) :
    e.WritesPayload r q := by
  rintro ⟨resource, ns, action⟩ body rfl hbody
  cases action with
  | create _ => exact absurd rfl hc
  | replace _ _ => exact absurd rfl hu
  | _ => cases hbody

theorem plan_writes : (plan r q).Yields (WritesPayload r q) := by
  intro e h
  have hverb := (plan_fits r q e h).1
  unfold plan at h
  cases hq : q.verb with
  | create =>
    rw [hq] at h
    exact planCreate_writes r q e h
  | update =>
    rw [hq] at h
    exact planUpdate_writes r q e h
  | _ =>
    rw [hq] at hverb
    exact writesPayload_of_verb r q (by rw [hverb]; decide) (by rw [hverb]; decide)

end ClusterGateway.Effect
