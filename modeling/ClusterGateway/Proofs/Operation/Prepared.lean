import ClusterGateway.Proofs.Operation.Written
import ClusterGateway.Proofs.Json.Canonical

/-!
# What was prepared stays as it is

The body that a payload is prepared as passes every later preparation, for whatever namespace it is
requested. Its type is the one that is looked for, its namespace is its own and goes before any other,
and both are written back over themselves. What is set or removed leaves the fields of a canonical
payload in order.
-/

namespace ClusterGateway

open Json

namespace Manifest

variable {r : ResourceKind}

theorem settleNamespace_insert {n : String} (h : Address.IsLabel n) (requested : Option String)
    (metadata : List (String × Json)) :
    settleNamespace r requested (Fields.insert "namespace" (.str n) metadata) = .ok n := by
  rw [settleNamespace_eq_ok_iff, ownNamespace?, Fields.get?_insert_self, Option.bind_some, Json.string?, h.nonBlank?]
  exact ⟨rfl, h⟩

section
variable {typed : List (String × Json)} (hversion : Fields.get? "apiVersion" typed = some (.str r.apiVersion))
  (hkind : Fields.get? "kind" typed = some (.str r.api.kind))
include hversion hkind

theorem prepare_of_typed (requested : Option String) (metadata : List (String × Json)) :
    prepare r requested (.obj (Fields.insert "metadata" (.obj metadata) typed)) =
      if r.isNamespaced then
        (settleNamespace r requested metadata).map fun n =>
          (some n, .obj (Fields.insert "metadata" (.obj (Fields.insert "namespace" (.str n) metadata)) typed))
      else .ok (none, .obj (Fields.insert "metadata" (.obj (Fields.erase "namespace" metadata)) typed)) := by
  have hother : ∀ field, field ≠ "metadata" →
      Fields.get? field (Fields.insert "metadata" (.obj metadata) typed) = Fields.get? field typed :=
    fun field hne => Fields.get?_insert_of_ne hne _ _
  have hversion' := (hother "apiVersion" (by decide)).trans hversion
  have hkind' := (hother "kind" (by decide)).trans hkind
  have hmetadata := Fields.get?_insert_self "metadata" (Json.obj metadata) typed
  simp only [prepare, settleType_of_get? hversion', settleType_of_get? hkind', metadataFields_of_get? hmetadata,
    Checked.ok_bind, Fields.insert_insert]
  split
  · cases settleNamespace r requested metadata <;> rfl
  · rfl

end

theorem prepare_prepared {requested ns : Option String} {payload body : Json}
    (h : prepare r requested payload = .ok (ns, body)) (again : Option String) :
    prepare r again body = .ok (ns, body) := by
  cases payload with
  | obj object =>
    simp only [prepare, Checked.bind_eq_ok_iff] at h
    obtain ⟨versioned, hversion, typed, hkind, metadata, -, h⟩ := h
    have hkind' := (settleType_eq_ok hkind).2.1
    have hversion' : Fields.get? "apiVersion" typed = some (.str r.apiVersion) := by
      rw [(settleType_eq_ok hkind).2.2 _ (by decide), (settleType_eq_ok hversion).2.1]
    split at h
    · next hr =>
      obtain ⟨n, hn, h⟩ := Checked.bind_eq_ok_iff.mp h
      obtain ⟨rfl, rfl⟩ := Prod.mk.inj (Checked.pure_eq_ok_iff.mp h)
      -- from now on the namespace is the body's own, and goes before any that is requested
      have hlabel := (settleNamespace_eq_ok_iff.mp hn).2
      rw [prepare_of_typed hversion' hkind', if_pos hr, settleNamespace_insert hlabel, Except.map, Fields.insert_insert]
    · next hr =>
      obtain ⟨rfl, rfl⟩ := Prod.mk.inj (Checked.pure_eq_ok_iff.mp h)
      rw [prepare_of_typed hversion' hkind', if_neg hr, Fields.erase_erase]
  | _ => cases h

/-! ## Fields in order -/

section
variable {field expected : String} {object object' metadata : List (String × Json)}

theorem canonical_settleType (h : settleType r field expected object = .ok object') (hobj : (obj object).Canonical) :
    (obj object').Canonical := by
  unfold settleType at h
  split at h
  · split at h
    · cases h
      exact hobj
    · cases h
  · cases h
    exact hobj.insert field (.str expected)

theorem canonical_metadataFields (h : metadataFields object = .ok metadata) (hobj : (obj object).Canonical) :
    (obj metadata).Canonical := by
  unfold metadataFields at h
  split at h
  · cases h
    exact .obj .nil (List.forall_mem_nil _)
  · cases h
    exact .obj .nil (List.forall_mem_nil _)
  · next fields hget =>
    cases h
    exact hobj.of_get? hget
  · cases h

end

theorem canonical_prepare {requested ns : Option String} {payload body : Json}
    (h : prepare r requested payload = .ok (ns, body)) (hp : payload.Canonical) : body.Canonical := by
  cases payload with
  | obj object =>
    simp only [prepare, Checked.bind_eq_ok_iff] at h
    obtain ⟨versioned, hversion, typed, hkind, metadata, hmetadata, h⟩ := h
    have htyped := canonical_settleType hkind (canonical_settleType hversion hp)
    have hfields := canonical_metadataFields hmetadata htyped
    split at h
    · obtain ⟨n, -, h⟩ := Checked.bind_eq_ok_iff.mp h
      obtain ⟨-, rfl⟩ := Prod.mk.inj (Checked.pure_eq_ok_iff.mp h)
      exact htyped.insert "metadata" (hfields.insert "namespace" (.str n))
    · obtain ⟨-, rfl⟩ := Prod.mk.inj (Checked.pure_eq_ok_iff.mp h)
      exact htyped.insert "metadata" (hfields.erase "namespace")
  | _ => cases h

end Manifest

namespace Effect

open Manifest

variable {r : ResourceKind} {q : Request} {payload body : Json} {ns : Option String}

theorem plan_prepared (hv : q.verb = .create ∨ q.verb = .update) (hp : q.payload = some payload)
    (h : prepare r q.ns payload = .ok (ns, body)) (again : Option String) :
    plan r { q with payload := some body, ns := again } = plan r q := by
  unfold plan
  rcases hv with hv | hv
  · simp only [hv, planCreate, hp, h, prepare_prepared h again]
  · simp only [hv, planUpdate, hp, h, prepare_prepared h again]

theorem writes_prepared {requested : Option String} (h : prepare r requested payload = .ok (ns, body))
    (hv : q.verb = .create ∨ q.verb = .update) (hp : q.payload = some body) {e : Effect} (he : plan r q = .ok e) :
    ∃ action, e = .call ⟨r.api, ns, action⟩ ∧ action.body? = some body := by
  have hsame : ∀ {ns' body'}, prepare r q.ns body = .ok (ns', body') → ns' = ns ∧ body' = body := by
    intro ns' body' h'
    rw [prepare_prepared h] at h'
    cases h'
    exact ⟨rfl, rfl⟩
  unfold plan at he
  rcases hv with hv | hv
  · rw [hv] at he
    obtain ⟨payload', ns', body', hp', h', -, -, rfl⟩ := planCreate_eq_ok_iff.mp he
    obtain rfl : body = payload' := Option.some.inj (hp.symm.trans hp')
    obtain ⟨rfl, rfl⟩ := hsame h'
    exact ⟨_, rfl, rfl⟩
  · rw [hv] at he
    obtain ⟨payload', ns', body', name, version, hp', h', -, -, -, -, rfl⟩ := planUpdate_eq_ok_iff.mp he
    obtain rfl : body = payload' := Option.some.inj (hp.symm.trans hp')
    obtain ⟨rfl, rfl⟩ := hsame h'
    exact ⟨_, rfl, rfl⟩

end Effect

namespace Manifest

/-- **A body stays as it was prepared.** Whatever namespace it is requested for, it is prepared as
itself, for the namespace that it was prepared for. So it may take the place of its payload in any
write, and no write of it goes elsewhere or changes it. -/
theorem prepared_bodies_stay {r : ResourceKind} {requested ns : Option String} {payload body : Json}
    (h : prepare r requested payload = .ok (ns, body)) :
    (∀ again, prepare r again body = .ok (ns, body)) ∧
    (∀ (q : Request) (again : Option String), q.verb = .create ∨ q.verb = .update → q.payload = some payload →
      q.ns = requested → Effect.plan r { q with payload := some body, ns := again } = Effect.plan r q) ∧
    ∀ (q : Request) (e : Effect), q.verb = .create ∨ q.verb = .update → q.payload = some body →
      Effect.plan r q = .ok e → ∃ action, e = .call ⟨r.api, ns, action⟩ ∧ action.body? = some body := by
  refine ⟨prepare_prepared h, fun q again hv hp hns => ?_, fun q e hv hp he => Effect.writes_prepared h hv hp he⟩
  subst hns
  exact Effect.plan_prepared hv hp h again

theorem prepared_bodies_stay_of_blanks :
    let pod : ResourceKind := ⟨"pod", [], ⟨"", "v1", "Pod", "pods"⟩, .namespaced, .uniform .admin, "", ""⟩
    let payload : Json := .obj [("kind", .ofNat 7),
      ("metadata", .obj [("name", .str "a"), ("namespace", .str "\tapps ")])]
    let body : Json := .obj [("apiVersion", .str "v1"), ("kind", .str "Pod"),
      ("metadata", .obj [("name", .str "a"), ("namespace", .str "apps")])]
    let again : Request := { verb := .create, kind := "pod", ns := some "other", payload := some body }
    prepare pod (some "other") payload = .ok (some "apps", body) ∧
      (∀ again, prepare pod again body = .ok (some "apps", body)) ∧
      Effect.plan pod { again with ns := some " ../ " } = .ok (.call ⟨pod.api, some "apps", .create body⟩) := by
  intro pod payload body again
  have h : prepare pod (some "other") payload = .ok (some "apps", body) := by decide +kernel
  have hplan : Effect.plan pod { again with payload := some payload } =
      .ok (.call ⟨pod.api, some "apps", .create body⟩) := by decide +kernel
  obtain ⟨hstays, hreplaced, -⟩ := prepared_bodies_stay h
  refine ⟨h, hstays, ?_⟩
  rw [← hplan]
  exact hreplaced { again with payload := some payload } (some " ../ ") (.inl rfl) rfl rfl

end Manifest

end ClusterGateway
