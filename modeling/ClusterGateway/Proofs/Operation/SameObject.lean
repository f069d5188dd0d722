import ClusterGateway.Proofs.Operation.Addressed

/-!
# One object, whichever verb

An object that was sent to be created is addressed again by its name and its namespace, by the body
that was sent, and by the payload as it was handed in if that tells its namespace. The verbs look
for these in different places and in different orders, but they come to the same address.
-/

namespace ClusterGateway

structure ObjectKey where
  resource : ApiResource
  ns : Option String
  name : String
  deriving DecidableEq, Repr

namespace Address

theorem targetNamespace_of_placed {r : ResourceKind} {ns found : Option String} (h : Placed r ns)
    (hfound : r.isNamespaced = true → Text.nonBlank? found = ns) : targetNamespace r found = .ok ns := by
  rw [targetNamespace_eq_ok_iff]
  rcases h with ⟨hr, n, rfl, hn⟩ | ⟨hr, rfl⟩
  · exact .inl ⟨hr, n, rfl, hfound hr, hn⟩
  · exact .inr ⟨hr, rfl⟩

theorem Placed.exists_of_namespaced {r : ResourceKind} {ns : Option String} (h : Placed r ns)
    (hr : r.isNamespaced = true) : ∃ n, ns = some n := by
  rcases h with ⟨-, n, rfl, -⟩ | ⟨hr', -⟩
  · exact ⟨n, rfl⟩
  · rw [hr] at hr'
    cases hr'

theorem Placed.nonBlank? {r : ResourceKind} {ns : Option String} (h : Placed r ns) : Text.nonBlank? ns = ns := by
  rcases h with ⟨-, n, rfl, hn⟩ | ⟨-, rfl⟩
  · exact hn.nonBlank?
  · rfl

end Address

namespace Manifest

open Address

/-- The object is the body with this version in its metadata, and all else is as it was. -/
structure IsVersionOf (body : Json) (version : String) (object : Json) : Prop where
  version : field? object "resourceVersion" = some (.str version)
  metadata : ∀ field, field ≠ "resourceVersion" → field? object field = field? body field
  others : ∀ field, field ≠ "metadata" → object.get? field = body.get? field

/-- For the payload this body goes to this namespace to be an object of this name. -/
structure Creates (r : ResourceKind) (payload : Json) (ns : Option String) (name : String) (body : Json) :
    Prop where
  lives : ∃ requested, Lives r payload requested ns
  settles : Settles r payload ns body
  named : metadata? payload "name" = some name
  isName : IsObjectName name

namespace Creates

variable {r : ResourceKind} {payload body : Json} {ns : Option String} {name : String}
  (h : Creates r payload ns name body)
include h

theorem placed : Placed r ns := h.lives.choose_spec.placed

theorem name_body : metadata? body "name" = some name := by
  rw [metadata?_congr (h.settles.metadata "name" (by decide)), h.named]

theorem ns_body (hr : r.isNamespaced = true) : metadata? body "namespace" = ns := by
  rcases h.placed with ⟨-, n, rfl, hn⟩ | ⟨hr', -⟩
  · refine metadata?_eq_some_iff.mpr ⟨h.settles.ns, ?_⟩
    rintro rfl
    exact absurd hn.size_pos (by decide)
  · rw [hr] at hr'
    cases hr'

theorem ns_payload {own : String} (hown : field? payload "namespace" = some (.str own))
    (hblank : Text.isBlankText own = false) (hr : r.isNamespaced = true) : Text.nonBlank? (some own) = ns := by
  obtain ⟨requested, ⟨-, n, rfl, hfor, -⟩ | ⟨hr', -⟩⟩ := h.lives
  · rw [namespaceFor?, hown] at hfor
    rw [Option.bind_some, Json.string?, Text.nonBlank?_of_not_blank hblank, Option.some_or] at hfor
    rw [Text.nonBlank?_of_not_blank hblank, hfor]
  · rw [hr] at hr'
    cases hr'

theorem suits_version {version : String} {object : Json} (hv : IsVersionOf body version object) :
    Suits r object := by
  obtain ⟨metadata, hm, hversion⟩ := Option.bind_eq_some_iff.mp hv.version
  refine ⟨exists_obj_of_get? hm, fun actual ha => ?_, fun actual ha => ?_, fun v hv' => .inr ?_⟩
  · rw [hv.others _ (by decide), h.settles.apiVersion] at ha
    cases ha
    rfl
  · rw [hv.others _ (by decide), h.settles.kind] at ha
    cases ha
    rfl
  · obtain rfl : metadata = v := Option.some.inj (hm.symm.trans hv')
    exact exists_obj_of_get? hversion

theorem lives_version {version : String} {object : Json} (hv : IsVersionOf body version object)
    (requested : Option String) : Lives r object requested ns := by
  rcases h.placed with ⟨hr, n, rfl, hn⟩ | ⟨hr, rfl⟩
  · refine .inl ⟨hr, n, rfl, ?_, hn⟩
    have hns : field? object "namespace" = some (.str n) := by
      rw [hv.metadata "namespace" (by decide), h.settles.ns]
      rfl
    rw [namespaceFor?, hns, Option.bind_some, Json.string?, hn.nonBlank?, Option.some_or]
  · exact .inr ⟨hr, rfl⟩

end Creates

end Manifest

namespace Effect

open Address Manifest

def resource (r : ResourceKind) : Effect → ApiResource
  | .call c => c.resource
  | .describe _ _ => r.api

def key? (r : ResourceKind) (e : Effect) : Option ObjectKey := e.name?.map (⟨e.resource r, e.ns, ·⟩)

/-- The request is about the object that the payload was created as, and tells so in one of these
ways. -/
inductive Returns (r : ResourceKind) (payload : Json) (ns : Option String) (name : String) (body : Json)
    (q : Request) : Prop
  | named (hv : q.verb = .get ∨ q.verb = .describe ∨ q.verb = .delete) (hname : q.name = some name)
      (hns : r.isNamespaced = true → q.ns = ns)
  | sent (hv : q.verb = .delete) (hname : q.name = none) (hns : q.ns = none) (hp : q.payload = some body)
  /-- Deleted by what was handed in, where that needs no namespace from elsewhere. -/
  | submitted (hv : q.verb = .delete) (hname : q.name = none) (hns : q.ns = none) (hp : q.payload = some payload)
      (hown : r.isNamespaced = true → ∃ own, field? payload "namespace" = some (.str own) ∧
        Text.isBlankText own = false)
  | versioned {version : String} {object : Json} (hv : q.verb = .update)
      (hname : ∀ requested, Text.nonBlank? q.name = some requested → requested = name)
      (hp : q.payload = some object) (hne : version ≠ "") (hobject : IsVersionOf body version object)

section
variable {r : ResourceKind} {payload body : Json} {ns : Option String} {name : String} {q : Request}

theorem creates_of_ofRequest {resource : ApiResource} (hp : q.payload = some payload)
    (hname : metadata? payload "name" = some name)
    (h : ofRequest r q = .ok (.call ⟨resource, ns, .create body⟩)) :
    Creates r payload ns name body ∧ resource = r.api := by
  have hplan := (ofRequest_eq_ok_iff.mp h).2
  have hv : q.verb = .create := (plan_fits r q _ hplan).1.symm
  rw [plan, hv] at hplan
  obtain ⟨payload', ns', body', hp', hprepare, hisName, -, he⟩ := planCreate_eq_ok_iff.mp hplan
  obtain rfl : payload' = payload := Option.some.inj (hp'.symm.trans hp)
  cases he
  obtain ⟨-, hlives, hsettles⟩ := prepare_eq_ok hprepare
  have hbody : metadata? body "name" = some name := by
    rw [metadata?_congr (hsettles.metadata "name" (by decide)), hname]
  exact ⟨⟨⟨_, hlives⟩, hsettles, hname, hisName name hbody⟩, rfl⟩

variable (h : Creates r payload ns name body)
include h

theorem planDelete_of_creates
    (hname : (Text.nonBlank? q.name).or (q.payload.bind (metadata? · "name")) = some name)
    (hns : r.isNamespaced = true →
      Text.nonBlank? ((Text.nonBlank? q.ns).or (q.payload.bind (metadata? · "namespace"))) = ns) :
    planDelete r q = .ok (.call ⟨r.api, ns, .delete name⟩) := by
  refine planDelete_eq_ok_iff.mpr ⟨name, ns, ?_, targetNamespace_of_placed h.placed hns, rfl⟩
  rw [hname, targetName_eq_ok_iff]
  exact ⟨h.isName.nonBlank?, h.isName⟩

theorem planUpdate_of_version {version : String} {object : Json} (hp : q.payload = some object)
    (hname : ∀ requested, Text.nonBlank? q.name = some requested → requested = name) (hne : version ≠ "")
    (hv : IsVersionOf body version object) :
    ∃ body', planUpdate r q = .ok (.call ⟨r.api, ns, .replace name body'⟩) := by
  obtain ⟨body', hprepare⟩ := exists_prepare (h.suits_version hv) (h.lives_version hv q.ns)
  have hmetadata := (prepare_eq_ok hprepare).2.2.metadata
  refine ⟨body', planUpdate_eq_ok_iff.mpr
    ⟨object, ns, body', name, version, hp, hprepare, ?_, h.isName, ?_, hname, rfl⟩⟩
  · rw [metadata?_congr (hmetadata "name" (by decide)), metadata?_congr (hv.metadata "name" (by decide)), h.name_body]
  · rw [metadata?_congr (hmetadata "resourceVersion" (by decide)), metadata?_eq_some_iff]
    exact ⟨hv.version, hne⟩

theorem plan_of_returns (hq : Returns r payload ns name body q) :
    ∃ e, plan r q = .ok e ∧ e.key? r = some ⟨r.api, ns, name⟩ := by
  have hnamed : targetName r (some name) = .ok name := targetName_eq_ok_iff.mpr ⟨h.isName.nonBlank?, h.isName⟩
  unfold plan
  cases hq with
  | named hv hname hns =>
    have hplace : targetNamespace r q.ns = .ok ns :=
      targetNamespace_of_placed h.placed fun hr => by rw [hns hr, h.placed.nonBlank?]
    rcases hv with hv | hv | hv
    · rw [hv]
      exact ⟨_, planGet_eq_ok_iff.mpr ⟨ns, name, hplace, hname ▸ hnamed, rfl⟩, rfl⟩
    · rw [hv]
      exact ⟨_, planDescribe_eq_ok_iff.mpr ⟨ns, name, hplace, hname ▸ hnamed, rfl⟩, rfl⟩
    · rw [hv]
      refine ⟨_, planDelete_of_creates h ?_ fun hr => ?_, rfl⟩
      · rw [hname, h.isName.nonBlank?, Option.some_or]
      · -- what the request names goes before any payload
        obtain ⟨n, rfl⟩ := h.placed.exists_of_namespaced hr
        rw [hns hr, h.placed.nonBlank?, Option.some_or, h.placed.nonBlank?]
  | sent hv hname hns hp =>
    rw [hv]
    refine ⟨_, planDelete_of_creates h ?_ fun hr => ?_, rfl⟩
    · rw [hname, hp]
      exact h.name_body
    · rw [hns, hp]
      exact (congrArg _ (h.ns_body hr)).trans h.placed.nonBlank?
  | submitted hv hname hns hp hown =>
    rw [hv]
    refine ⟨_, planDelete_of_creates h ?_ fun hr => ?_, rfl⟩
    · rw [hname, hp]
      exact h.named
    · -- the payload tells its namespace untrimmed here, but the address is trimmed all the same
      obtain ⟨own, hown, hblank⟩ := hown hr
      have hmetadata : metadata? payload "namespace" = some own := by
        refine metadata?_eq_some_iff.mpr ⟨hown, ?_⟩
        rintro rfl
        exact absurd hblank (by decide)
      rw [hns, hp]
      exact (congrArg _ hmetadata).trans (h.ns_payload hown hblank hr)
  | versioned hv hname hp hne hobject =>
    rw [hv]
    obtain ⟨body', hplan⟩ := planUpdate_of_version h hp hname hne hobject
    exact ⟨_, hplan, rfl⟩

omit h in
theorem ofRequest_of_returns {resource : ApiResource} {q' : Request} (hp : q.payload = some payload)
    (hname : metadata? payload "name" = some name)
    (hcreate : ofRequest r q = .ok (.call ⟨resource, ns, .create body⟩)) (hq : Returns r payload ns name body q')
    (hverb : r.supports q'.verb = true) :
    ∃ e, ofRequest r q' = .ok e ∧ e.verb = q'.verb ∧ e.key? r = some ⟨resource, ns, name⟩ := by
  obtain ⟨h, rfl⟩ := creates_of_ofRequest hp hname hcreate
  obtain ⟨e, he, hkey⟩ := plan_of_returns h hq
  exact ⟨e, ofRequest_eq_ok_iff.mpr ⟨hverb, he⟩, (plan_fits r q' e he).1, hkey⟩

end

end Effect

end ClusterGateway
