import ClusterGateway.Operation.Effect
import ClusterGateway.Proofs.Json.Fields
import ClusterGateway.Proofs.Operation.Manifest

/-!
# Kinds without namespaces

For a kind whose objects live in no namespace, a request is planned as if it and the metadata of its
payload named none, whatever they name.
-/

namespace ClusterGateway

open Json

/-- The object with no namespace in its metadata, where it has metadata that can hold one. -/
def Manifest.withoutNamespace (payload : Json) : Json :=
  match payload.fields?, payload.get? "metadata" with
  | some object, some (.obj metadata) =>
    .obj (Fields.insert "metadata" (.obj (Fields.erase "namespace" metadata)) object)
  | _, _ => payload

def Request.withoutNamespace (q : Request) : Request :=
  { q with ns := none, payload := q.payload.map Manifest.withoutNamespace }

namespace Manifest

variable {r : ResourceKind}

theorem field?_withoutNamespace {field : String} (h : field ≠ "namespace") (payload : Json) :
    field? (withoutNamespace payload) field = field? payload field := by
  unfold withoutNamespace
  split
  · next hm =>
    simp only [field?, hm, get?_obj, Fields.get?_insert_self, Option.bind_some, Fields.get?_erase_of_ne h]
  · rfl

theorem settleType_insert {field other : String} (h : other ≠ field) (expected : String) (v : Json)
    (object : List (String × Json)) :
    settleType r field expected (Fields.insert other v object) =
      (settleType r field expected object).map (Fields.insert other v) := by
  unfold settleType
  rw [Fields.get?_insert_of_ne h.symm]
  split
  · split <;> rfl
  · rw [Fields.insert_comm h.symm]
    rfl

theorem prepare_of_unplaced (h : r.isNamespaced = false) (ns : Option String) (object : List (String × Json)) :
    prepare r ns (.obj object) =
      (settleType r "apiVersion" r.apiVersion object).bind fun versioned =>
      (settleType r "kind" r.api.kind versioned).bind fun typed =>
      (metadataFields typed).bind fun metadata =>
      .ok (none, .obj (Fields.insert "metadata" (.obj (Fields.erase "namespace" metadata)) typed)) := by
  simp only [prepare, h, Bool.false_eq_true, if_false]
  rfl

theorem prepare_withoutNamespace (h : r.isNamespaced = false) (ns ns' : Option String) (payload : Json) :
    prepare r ns (withoutNamespace payload) = prepare r ns' payload := by
  cases payload with
  | obj object =>
    unfold withoutNamespace
    split
    · next object' metadata hobject hmetadata =>
      cases hobject
      rw [prepare_of_unplaced h, prepare_of_unplaced h, settleType_insert (by decide)]
      cases hversion : settleType r "apiVersion" r.apiVersion object with
      | error refusal => rfl
      | ok versioned =>
        simp only [Except.map, Except.bind]
        rw [settleType_insert (by decide)]
        cases hkind : settleType r "kind" r.api.kind versioned with
        | error refusal => rfl
        | ok typed =>
          -- the type fields leave the metadata alone, so both ways the same is written back
          have hkept : Fields.get? "metadata" typed = some (.obj metadata) := by
            rw [get?_typed hversion hkind (by decide) (by decide)]
            exact hmetadata
          simp only [Except.map, metadataFields, hkept, Fields.get?_insert_self, Fields.erase_erase,
            Fields.insert_insert]
    · rw [prepare_of_unplaced h, prepare_of_unplaced h]
  | _ => rfl

end Manifest

namespace Effect

open Address Manifest

variable {r : ResourceKind}

theorem targetNamespace_of_unplaced (h : r.isNamespaced = false) (ns : Option String) :
    targetNamespace r ns = .ok none := by
  rw [targetNamespace, h]
  rfl

theorem listNamespace_of_unplaced (h : r.isNamespaced = false) (ns : Option String) :
    listNamespace r ns = .ok none := by
  rw [listNamespace, h]
  rfl

theorem plan_withoutNamespace (h : r.isNamespaced = false) (q : Request) :
    plan r q.withoutNamespace = plan r q := by
  unfold plan
  cases hverb : q.verb with
  | list => simp only [Request.withoutNamespace, hverb, planList, listNamespace_of_unplaced h]
  | get => simp only [Request.withoutNamespace, hverb, planGet, targetNamespace_of_unplaced h]
  | describe => simp only [Request.withoutNamespace, hverb, planDescribe, targetNamespace_of_unplaced h]
  | create =>
    cases hp : q.payload <;>
      simp only [Request.withoutNamespace, hverb, planCreate, hp, Option.map_none, Option.map_some,
        prepare_withoutNamespace h none q.ns]
  | update =>
    cases hp : q.payload <;>
      simp only [Request.withoutNamespace, hverb, planUpdate, hp, Option.map_none, Option.map_some,
        prepare_withoutNamespace h none q.ns]
  | delete =>
    have hname : ∀ payload, metadata? (withoutNamespace payload) "name" = metadata? payload "name" :=
      fun payload => metadata?_congr (field?_withoutNamespace (by decide) payload)
    simp only [Request.withoutNamespace, hverb, planDelete, targetNamespace_of_unplaced h, Option.bind_map,
      Function.comp_def, hname]

theorem ofRequest_withoutNamespace (h : r.isNamespaced = false) (q : Request) :
    ofRequest r q.withoutNamespace = ofRequest r q := by
  rw [ofRequest, plan_withoutNamespace h]
  rfl

end Effect

end ClusterGateway
