import ClusterGateway.Proofs.Operation.Addressed
import ClusterGateway.Proofs.Json.Fields

/-!
# What is read of a payload

Of the payload of a write only its head is read: the type and, of the metadata, the name, the
namespace, the beginning of a generated name and the version. Each check of two payloads with one head
comes to the same, and so what is planned for them differs at most in what is written.
-/

namespace ClusterGateway

/-! ## Payloads with one head -/

namespace Manifest

open Json

def typeFields : List String := ["apiVersion", "kind"]

theorem ne_metadata_of_mem {field : String} (h : field ∈ typeFields) : field ≠ "metadata" := by
  rintro rfl
  exact absurd h (by decide)

def headFields : List String := ["name", "namespace", "generateName", "resourceVersion"]

/-- Both are objects with metadata, and what is read of them is the same. -/
structure SameHead (a b : Json) : Prop where
  metadata : ∃ m m', a.get? "metadata" = some (.obj m) ∧ b.get? "metadata" = some (.obj m')
  type : ∀ field ∈ typeFields, a.get? field = b.get? field
  head : ∀ field ∈ headFields, field? a field = field? b field

namespace SameHead

theorem metadata?_eq {a b : Json} (h : SameHead a b) (field : String) (hfield : field ∈ headFields) :
    metadata? a field = metadata? b field :=
  metadata?_congr (h.head field hfield)

theorem exists_obj {a b : Json} (h : SameHead a b) :
    ∃ object object', a = .obj object ∧ b = .obj object' := by
  obtain ⟨m, m', hm, hm'⟩ := h.metadata
  obtain ⟨object, ha⟩ := exists_obj_of_get? hm
  obtain ⟨object', hb⟩ := exists_obj_of_get? hm'
  exact ⟨object, object', ha, hb⟩

variable {object object' metadata metadata' : List (String × Json)} (h : SameHead (.obj object) (.obj object'))
include h

theorem insert {field : String} (hfield : field ∈ typeFields) (v : Json) :
    SameHead (.obj (Fields.insert field v object)) (.obj (Fields.insert field v object')) := by
  have hne := (ne_metadata_of_mem hfield).symm
  refine ⟨?_, fun other hother => ?_, fun other hother => ?_⟩
  · simp only [get?_obj, Fields.get?_insert_of_ne hne]
    exact h.metadata
  · exact Fields.get?_insert_congr (h.type other hother) field v
  · simp only [field?, get?_obj, Fields.get?_insert_of_ne hne]
    exact h.head other hother

theorem insert_metadata (hm : ∀ field ∈ headFields, Fields.get? field metadata = Fields.get? field metadata') :
    SameHead (.obj (Fields.insert "metadata" (.obj metadata) object))
      (.obj (Fields.insert "metadata" (.obj metadata') object')) := by
  refine ⟨⟨metadata, metadata', ?_, ?_⟩, fun field hfield => ?_, fun field hfield => ?_⟩
  · exact Fields.get?_insert_self _ _ _
  · exact Fields.get?_insert_self _ _ _
  · simp only [get?_obj, Fields.get?_insert_of_ne (ne_metadata_of_mem hfield)]
    exact h.type field hfield
  · simp only [field?, get?_obj, Fields.get?_insert_self, Option.bind_some]
    exact hm field hfield

end SameHead

variable {r : ResourceKind} {object object' : List (String × Json)}

theorem settleType_parallel (h : SameHead (.obj object) (.obj object')) {field : String} (hfield : field ∈ typeFields)
    (expected : String) :
    Checked.Parallel (fun x y => SameHead (.obj x) (.obj y)) (settleType r field expected object)
      (settleType r field expected object') := by
  have hsame : Fields.get? field object = Fields.get? field object' := h.type field hfield
  unfold settleType
  rw [hsame]
  split
  · split
    · exact .passed h
    · exact .refused _
  · exact .passed (h.insert hfield _)

theorem metadataFields_parallel (h : SameHead (.obj object) (.obj object')) :
    Checked.Parallel (fun m m' => ∀ field ∈ headFields, Fields.get? field m = Fields.get? field m')
      (metadataFields object) (metadataFields object') := by
  obtain ⟨m, m', hm, hm'⟩ := h.metadata
  rw [get?_obj] at hm hm'
  rw [metadataFields_of_get? hm, metadataFields_of_get? hm']
  refine .passed fun field hfield => ?_
  have hhead := h.head field hfield
  simp only [field?, get?_obj, hm, hm', Option.bind_some] at hhead
  exact hhead

theorem settleNamespace_congr {metadata metadata' : List (String × Json)} (requested : Option String)
    (h : Fields.get? "namespace" metadata = Fields.get? "namespace" metadata') :
    settleNamespace r requested metadata = settleNamespace r requested metadata' := by
  simp only [settleNamespace, ownNamespace?, h]

theorem prepare_parallel {a b : Json} (h : SameHead a b) (requested : Option String) :
    Checked.Parallel (fun x y => x.1 = y.1 ∧ SameHead x.2 y.2) (prepare r requested a) (prepare r requested b) := by
  obtain ⟨object, object', rfl, rfl⟩ := h.exists_obj
  unfold prepare
  -- each step reads the head alone, and what it writes back has one head again
  refine (settleType_parallel h (by decide) _).bind fun _ _ hversioned => ?_
  refine (settleType_parallel hversioned (by decide) _).bind fun _ _ htyped => ?_
  refine (metadataFields_parallel htyped).bind fun m m' hm => ?_
  split
  · rw [settleNamespace_congr requested (hm "namespace" (by decide))]
    refine (Checked.Parallel.same _).bind fun n _ hn => ?_
    subst hn
    exact .passed ⟨rfl, htyped.insert_metadata fun field hfield => Fields.get?_insert_congr (hm field hfield) _ _⟩
  · exact .passed ⟨rfl, htyped.insert_metadata fun field hfield => Fields.get?_erase_congr (hm field hfield) _⟩

end Manifest

/-! ## Requests that differ in contents -/

/-- Two writes that are the same but for what their payloads hold beside the head. -/
structure Request.DiffersInContents (q q' : Request) : Prop where
  verb : q.verb = .create ∨ q.verb = .update
  payload : ∃ a b, q.payload = some a ∧ q' = { q with payload := some b } ∧ Manifest.SameHead a b

theorem Request.DiffersInContents.beside {q q' : Request} (h : q.DiffersInContents q') :
    q'.verb = q.verb ∧ q'.kind = q.kind ∧ q'.context = q.context ∧ q'.deadline = q.deadline := by
  obtain ⟨a, b, -, rfl, -⟩ := h.payload
  exact ⟨rfl, rfl, rfl, rfl⟩

structure Call.SameTarget (c c' : Call) : Prop where
  operation : c.action.verb = c'.action.verb
  resource : c.resource = c'.resource
  ns : c.ns = c'.ns
  name : (Effect.call c).name? = (Effect.call c').name?

namespace Effect

open Manifest

def SameTarget (e e' : Effect) : Prop := ∃ c c', e = .call c ∧ e' = .call c' ∧ c.SameTarget c'

variable {r : ResourceKind} {q : Request} {a b : Json} (h : SameHead a b) (hp : q.payload = some a)
include h hp

theorem planCreate_parallel :
    Checked.Parallel SameTarget (planCreate r q) (planCreate r { q with payload := some b }) := by
  simp only [planCreate, hp]
  refine (prepare_parallel h q.ns).bind ?_
  rintro ⟨ns, body⟩ ⟨_, body'⟩ ⟨rfl, (hbody : SameHead body body')⟩
  have hname := hbody.metadata?_eq "name" (by decide)
  have hgenerate := hbody.metadata?_eq "generateName" (by decide)
  have hdone : Checked.Parallel SameTarget (pure (.call ⟨r.api, ns, .create body⟩) : Checked Effect)
      (pure (.call ⟨r.api, ns, .create body'⟩)) :=
    .passed ⟨_, _, rfl, rfl, rfl, rfl, rfl, hname⟩
  simp only [hname, hgenerate]
  split
  · exact (Checked.Parallel.same _).bind fun _ _ _ => hdone
  · exact .guard hdone

theorem planUpdate_parallel :
    Checked.Parallel SameTarget (planUpdate r q) (planUpdate r { q with payload := some b }) := by
  simp only [planUpdate, hp]
  refine (prepare_parallel h q.ns).bind ?_
  rintro ⟨ns, body⟩ ⟨_, body'⟩ ⟨rfl, (hbody : SameHead body body')⟩
  have hname := hbody.metadata?_eq "name" (by decide)
  have hversion := hbody.metadata?_eq "resourceVersion" (by decide)
  simp only [hname, hversion]
  split
  · next name _ =>
    have hdone : Checked.Parallel SameTarget (pure (.call ⟨r.api, ns, .replace name body⟩) : Checked Effect)
        (pure (.call ⟨r.api, ns, .replace name body'⟩)) :=
      .passed ⟨_, _, rfl, rfl, rfl, rfl, rfl, rfl⟩
    refine (Checked.Parallel.same _).bind fun _ _ _ => .guard ?_
    split
    · exact .guard hdone
    · exact hdone
  · exact .refused _

theorem plan_parallel (hv : q.verb = .create ∨ q.verb = .update) :
    Checked.Parallel SameTarget (plan r q) (plan r { q with payload := some b }) := by
  unfold plan
  rcases hv with hv | hv
  · simp only [hv]
    exact planCreate_parallel h hp
  · simp only [hv]
    exact planUpdate_parallel h hp

omit h hp

theorem ofRequest_of_contents {q' : Request} (h : q.DiffersInContents q') (r : ResourceKind) :
    (∃ failure, ofRequest r q = .error failure ∧ ofRequest r q' = .error failure) ∨
      ∃ c c', ofRequest r q = .ok (.call c) ∧ ofRequest r q' = .ok (.call c') ∧ c.SameTarget c' := by
  obtain ⟨a, b, hp, rfl, hhead⟩ := h.payload
  have hplan := plan_parallel (r := r) hhead hp h.verb
  unfold ofRequest
  generalize plan r q = x, plan r { q with payload := some b } = y at hplan ⊢
  split
  · cases hplan with
    | refused refusal => exact .inl ⟨_, rfl, rfl⟩
    | passed htarget =>
      obtain ⟨c, c', rfl, rfl, hsame⟩ := htarget
      exact .inr ⟨c, c', rfl, rfl, hsame⟩
  · exact .inl ⟨_, rfl, rfl⟩

end Effect

end ClusterGateway
