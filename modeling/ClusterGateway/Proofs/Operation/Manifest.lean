import ClusterGateway.Operation.Manifest
import ClusterGateway.Proofs.Operation.Address

/-!
# What is sent for a payload

A payload is sent as an object of the kind in one namespace. Only its type and its namespace are
settled, and nothing else in it is touched, be it at the top or in the metadata.
-/

namespace ClusterGateway.Manifest

open Json

/-- A field of the metadata; nothing where there is no metadata to speak of. -/
def field? (object : Json) (field : String) : Option Json :=
  (object.get? "metadata").bind (·.get? field)

theorem exists_obj_of_get? {object v : Json} {field : String} (h : object.get? field = some v) :
    ∃ fields, object = .obj fields := by
  cases object with
  | obj fields => exact ⟨fields, rfl⟩
  | _ => cases h

theorem metadata?_eq_some_iff {object : Json} {field s : String} :
    metadata? object field = some s ↔ field? object field = some (.str s) ∧ s ≠ "" := by
  unfold metadata?
  rw [← field?]
  split
  · next t ht =>
    simp only [ht, Option.ite_none_left_eq_some, Option.some.injEq, Json.str.injEq, String.isEmpty_iff]
    constructor
    · rintro ⟨hne, rfl⟩
      exact ⟨rfl, hne⟩
    · rintro ⟨rfl, hne⟩
      exact ⟨hne, rfl⟩
  · next h =>
    simp only [reduceCtorEq, false_iff, not_and]
    exact fun hs => absurd hs (h s)

theorem metadata?_congr {a b : Json} {field : String} (h : field? a field = field? b field) :
    metadata? a field = metadata? b field := by
  rw [field?, field?] at h
  rw [metadata?, metadata?, h]

/-- The namespace that a payload is for: its own, or else the one of the request. -/
def namespaceFor? (payload : Json) (requested : Option String) : Option String :=
  (Text.nonBlank? ((field? payload "namespace").bind Json.string?)).or (Text.nonBlank? requested)

structure Suits (r : ResourceKind) (payload : Json) : Prop where
  object : ∃ fields, payload = .obj fields
  apiVersion : ∀ actual, payload.get? "apiVersion" = some (.str actual) → actual = r.apiVersion
  kind : ∀ actual, payload.get? "kind" = some (.str actual) → actual = r.api.kind
  metadata : ∀ v, payload.get? "metadata" = some v → v = .null ∨ ∃ fields, v = .obj fields

/-- The body is the payload as an object of the kind that lives in the namespace. -/
structure Settles (r : ResourceKind) (payload : Json) (ns : Option String) (body : Json) : Prop where
  apiVersion : body.get? "apiVersion" = some (.str r.apiVersion)
  kind : body.get? "kind" = some (.str r.api.kind)
  ns : field? body "namespace" = ns.map .str
  others : ∀ field, field ≠ "apiVersion" → field ≠ "kind" → field ≠ "metadata" →
    body.get? field = payload.get? field
  metadata : ∀ field, field ≠ "namespace" → field? body field = field? payload field

/-- What the namespace of a write is: one of its own for a kind with namespaces, and none else. -/
def Lives (r : ResourceKind) (payload : Json) (requested ns : Option String) : Prop :=
  (r.isNamespaced = true ∧ ∃ n, ns = some n ∧ namespaceFor? payload requested = some n ∧ Address.IsLabel n) ∨
    (r.isNamespaced = false ∧ ns = none)

/-! ## The steps of a preparation -/

theorem settleType_eq_ok {r : ResourceKind} {field expected : String} {object object' : List (String × Json)}
    (h : settleType r field expected object = .ok object') :
    (∀ actual, Fields.get? field object = some (.str actual) → actual = expected) ∧
      Fields.get? field object' = some (.str expected) ∧
      ∀ other, other ≠ field → Fields.get? other object' = Fields.get? other object := by
  unfold settleType at h
  split at h
  · next actual ha =>
    split at h
    · next he =>
      cases h
      subst he
      refine ⟨fun s hs => ?_, ha, fun _ _ => rfl⟩
      rw [ha] at hs
      cases hs
      rfl
    · cases h
  · next ha =>
    cases h
    exact ⟨fun s hs => absurd hs (ha s), Fields.get?_insert_self _ _ _,
      fun other ho => Fields.get?_insert_of_ne ho _ _⟩

theorem exists_settleType {r : ResourceKind} {field expected : String} {object : List (String × Json)}
    (h : ∀ actual, Fields.get? field object = some (.str actual) → actual = expected) :
    ∃ object', settleType r field expected object = .ok object' := by
  unfold settleType
  split
  · next actual ha => exact ⟨object, by rw [if_pos (h actual ha)]⟩
  · exact ⟨_, rfl⟩

theorem settleType_of_get? {r : ResourceKind} {field expected : String} {object : List (String × Json)}
    (h : Fields.get? field object = some (.str expected)) : settleType r field expected object = .ok object := by
  simp only [settleType, h, if_true]

theorem metadataFields_eq_ok {object metadata : List (String × Json)} (h : metadataFields object = .ok metadata) :
    (∀ v, Fields.get? "metadata" object = some v → v = .null ∨ ∃ fields, v = .obj fields) ∧
      ∀ field, Fields.get? field metadata = (Fields.get? "metadata" object).bind (·.get? field) := by
  unfold metadataFields at h
  cases hm : Fields.get? "metadata" object with
  | none =>
    rw [hm] at h
    cases h
    exact ⟨fun v hv => (Option.some_ne_none v hv.symm).elim, fun _ => rfl⟩
  | some v =>
    rw [hm] at h
    cases v with
    | null =>
      cases h
      exact ⟨fun v hv => .inl (Option.some.inj hv).symm, fun _ => rfl⟩
    | obj fields =>
      cases h
      exact ⟨fun v hv => .inr ⟨_, (Option.some.inj hv).symm⟩, fun _ => rfl⟩
    | _ => cases h

theorem metadataFields_of_get? {object metadata : List (String × Json)}
    (h : Fields.get? "metadata" object = some (.obj metadata)) : metadataFields object = .ok metadata := by
  simp only [metadataFields, h]

theorem exists_metadataFields {object : List (String × Json)}
    (h : ∀ v, Fields.get? "metadata" object = some v → v = .null ∨ ∃ fields, v = .obj fields) :
    ∃ metadata, metadataFields object = .ok metadata := by
  unfold metadataFields
  split
  · exact ⟨_, rfl⟩
  · exact ⟨_, rfl⟩
  · exact ⟨_, rfl⟩
  · next v hnull hobj hv =>
    rcases h v hv with rfl | ⟨fields, rfl⟩
    · exact absurd rfl hnull
    · exact absurd rfl (hobj fields)

theorem settleNamespace_eq_ok_iff {r : ResourceKind} {requested : Option String}
    {metadata : List (String × Json)} {n : String} :
    settleNamespace r requested metadata = .ok n ↔
      (ownNamespace? metadata).or (Text.nonBlank? requested) = some n ∧ Address.IsLabel n := by
  unfold settleNamespace
  cases (ownNamespace? metadata).or (Text.nonBlank? requested) with
  | none => simp
  | some m =>
    simp only [Address.checkNamespace_eq_ok_iff, Option.some.injEq]
    constructor
    · rintro ⟨hm, rfl⟩
      exact ⟨rfl, hm⟩
    · rintro ⟨rfl, hm⟩
      exact ⟨hm, rfl⟩

/-! ## Preparations -/

section
variable {r : ResourceKind} {object versioned typed metadata : List (String × Json)}
  (hversion : settleType r "apiVersion" r.apiVersion object = .ok versioned)
  (hkind : settleType r "kind" r.api.kind versioned = .ok typed)
include hversion hkind

theorem get?_typed {field : String} (hv : field ≠ "apiVersion") (hk : field ≠ "kind") :
    Fields.get? field typed = Fields.get? field object := by
  rw [(settleType_eq_ok hkind).2.2 field hk, (settleType_eq_ok hversion).2.2 field hv]

variable (hmetadata : metadataFields typed = .ok metadata)
include hmetadata

theorem field?_eq_get? (field : String) : field? (.obj object) field = Fields.get? field metadata := by
  rw [(metadataFields_eq_ok hmetadata).2, get?_typed hversion hkind (by decide) (by decide)]
  rfl

theorem ownNamespace?_eq :
    ownNamespace? metadata = Text.nonBlank? ((field? (.obj object) "namespace").bind Json.string?) := by
  rw [field?_eq_get? hversion hkind hmetadata, ownNamespace?]

theorem suits_of_steps : Suits r (.obj object) := by
  obtain ⟨hv, -, hother⟩ := settleType_eq_ok hversion
  refine ⟨⟨_, rfl⟩, hv, fun actual ha => (settleType_eq_ok hkind).1 actual ?_, fun v hm => ?_⟩
  · rw [hother _ (by decide)]
    exact ha
  · refine (metadataFields_eq_ok hmetadata).1 v ?_
    rw [get?_typed hversion hkind (by decide) (by decide)]
    exact hm

theorem settles_of_steps {ns : Option String} {metadata' : List (String × Json)}
    (hns : Fields.get? "namespace" metadata' = ns.map .str)
    (hothers : ∀ field, field ≠ "namespace" → Fields.get? field metadata' = Fields.get? field metadata) :
    Settles r (.obj object) ns (.obj (Fields.insert "metadata" (.obj metadata') typed)) := by
  have hbody : ∀ field, field? (.obj (Fields.insert "metadata" (.obj metadata') typed)) field =
      Fields.get? field metadata' := by
    intro field
    simp [field?]
  refine ⟨?_, ?_, ?_, fun field hv hk hm => ?_, fun field hne => ?_⟩
  · rw [get?_obj, Fields.get?_insert_of_ne (by decide), (settleType_eq_ok hkind).2.2 _ (by decide),
      (settleType_eq_ok hversion).2.1]
  · rw [get?_obj, Fields.get?_insert_of_ne (by decide), (settleType_eq_ok hkind).2.1]
  · rw [hbody, hns]
  · rw [get?_obj, get?_obj, Fields.get?_insert_of_ne hm, get?_typed hversion hkind hv hk]
  · rw [hbody, hothers field hne, field?_eq_get? hversion hkind hmetadata]

end

theorem prepare_eq_ok {r : ResourceKind} {requested ns : Option String} {payload body : Json}
    (h : prepare r requested payload = .ok (ns, body)) :
    Suits r payload ∧ Lives r payload requested ns ∧ Settles r payload ns body := by
  unfold prepare at h
  split at h
  · next object =>
    simp only [Checked.bind_eq_ok_iff] at h
    obtain ⟨versioned, hversion, typed, hkind, metadata, hmetadata, h⟩ := h
    split at h
    · next hr =>
      simp only [Checked.bind_eq_ok_iff, Checked.pure_eq_ok_iff, Prod.mk.injEq] at h
      obtain ⟨n, hn, rfl, rfl⟩ := h
      rw [settleNamespace_eq_ok_iff, ownNamespace?_eq hversion hkind hmetadata] at hn
      refine ⟨suits_of_steps hversion hkind hmetadata, .inl ⟨hr, n, rfl, hn⟩, ?_⟩
      exact settles_of_steps hversion hkind hmetadata (Fields.get?_insert_self _ _ _)
        fun field hne => Fields.get?_insert_of_ne hne _ _
    · next hr =>
      simp only [Checked.pure_eq_ok_iff, Prod.mk.injEq] at h
      obtain ⟨rfl, rfl⟩ := h
      refine ⟨suits_of_steps hversion hkind hmetadata, .inr ⟨by simpa using hr, rfl⟩, ?_⟩
      exact settles_of_steps hversion hkind hmetadata (Fields.get?_erase_self _ _)
        fun field hne => Fields.get?_erase_of_ne hne _
  · cases h

theorem exists_prepare {r : ResourceKind} {requested ns : Option String} {payload : Json}
    (hs : Suits r payload) (hl : Lives r payload requested ns) :
    ∃ body, prepare r requested payload = .ok (ns, body) := by
  obtain ⟨object, rfl⟩ := hs.object
  obtain ⟨versioned, hversion⟩ := exists_settleType (r := r) hs.apiVersion
  have hother := (settleType_eq_ok hversion).2.2
  obtain ⟨typed, hkind⟩ : ∃ typed, settleType r "kind" r.api.kind versioned = .ok typed := by
    refine exists_settleType fun actual ha => hs.kind actual ?_
    rwa [hother _ (by decide)] at ha
  obtain ⟨metadata, hmetadata⟩ : ∃ metadata, metadataFields typed = .ok metadata := by
    refine exists_metadataFields fun v hv => hs.metadata v ?_
    rwa [get?_typed hversion hkind (by decide) (by decide)] at hv
  simp only [prepare, hversion, hkind, hmetadata, Checked.bind_eq_ok_iff, Except.ok.injEq, exists_eq_left']
  rcases hl with ⟨hr, n, rfl, hn⟩ | ⟨hr, rfl⟩
  · have hsettled : settleNamespace r requested metadata = .ok n := by
      rw [settleNamespace_eq_ok_iff, ownNamespace?_eq hversion hkind hmetadata]
      exact hn
    simp [hr, hsettled]
  · simp [hr]

end ClusterGateway.Manifest
