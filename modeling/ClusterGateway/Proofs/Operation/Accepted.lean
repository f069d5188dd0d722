import ClusterGateway.Operation.Effect
import ClusterGateway.Proofs.Operation.Manifest

/-!
# Which requests are accepted

For each verb, the requests that it accepts and the effect that it plans for them.
-/

namespace ClusterGateway.Effect

open Address Manifest

variable {r : ResourceKind} {q : Request} {e : Effect}

theorem checkName_metadata {body : Json} {name t : String} (h : metadata? body "name" = some name) :
    checkName name = .ok t ↔ IsObjectName name ∧ name = t := by
  rw [checkName_eq_ok_iff, isObjectName_iff]
  simp [(metadata?_eq_some_iff.mp h).2]

theorem planList_eq_ok_iff :
    planList r q = .ok e ↔ ∃ ns, listNamespace r q.ns = .ok ns ∧ .call ⟨r.api, ns, .list⟩ = e := by
  simp only [planList, Checked.bind_eq_ok_iff, Checked.pure_eq_ok_iff]

theorem planGet_eq_ok_iff :
    planGet r q = .ok e ↔ ∃ ns name, targetNamespace r q.ns = .ok ns ∧ targetName r q.name = .ok name ∧
      .call ⟨r.api, ns, .get name⟩ = e := by
  simp only [planGet, Checked.bind_eq_ok_iff, Checked.pure_eq_ok_iff, exists_and_left]

theorem planDescribe_eq_ok_iff :
    planDescribe r q = .ok e ↔ ∃ ns name, targetNamespace r q.ns = .ok ns ∧ targetName r q.name = .ok name ∧
      .describe ns name = e := by
  simp only [planDescribe, Checked.bind_eq_ok_iff, Checked.pure_eq_ok_iff, exists_and_left]

theorem planDelete_eq_ok_iff :
    planDelete r q = .ok e ↔ ∃ name ns,
      targetName r ((Text.nonBlank? q.name).or (q.payload.bind (metadata? · "name"))) = .ok name ∧
      targetNamespace r ((Text.nonBlank? q.ns).or (q.payload.bind (metadata? · "namespace"))) = .ok ns ∧
      .call ⟨r.api, ns, .delete name⟩ = e := by
  simp only [planDelete, Checked.bind_eq_ok_iff, Checked.pure_eq_ok_iff, exists_and_left]

theorem planCreate_eq_ok_iff :
    planCreate r q = .ok e ↔ ∃ payload ns body, q.payload = some payload ∧ prepare r q.ns payload = .ok (ns, body) ∧
      (∀ name, metadata? body "name" = some name → IsObjectName name) ∧
      (metadata? body "name" = none → metadata? body "generateName" ≠ none) ∧
      .call ⟨r.api, ns, .create body⟩ = e := by
  unfold planCreate
  cases hp : q.payload with
  | none => simp
  | some payload =>
    simp only [Checked.bind_eq_ok_iff, Prod.exists, Option.some.injEq, exists_and_left, exists_eq_left']
    refine exists_congr fun ns => exists_congr fun body => and_congr_right fun _ => ?_
    cases hn : metadata? body "name" with
    | some name =>
      simp only [Checked.bind_eq_ok_iff, checkName_metadata hn, Checked.pure_eq_ok_iff]
      simp
    | none =>
      simp only [Checked.guard_eq_ok_iff, Checked.pure_eq_ok_iff]
      simp

theorem planUpdate_eq_ok_iff :
    planUpdate r q = .ok e ↔ ∃ payload ns body name version, q.payload = some payload ∧
      prepare r q.ns payload = .ok (ns, body) ∧ metadata? body "name" = some name ∧ IsObjectName name ∧
      metadata? body "resourceVersion" = some version ∧
      (∀ requested, Text.nonBlank? q.name = some requested → requested = name) ∧
      .call ⟨r.api, ns, .replace name body⟩ = e := by
  unfold planUpdate
  cases hp : q.payload with
  | none => simp
  | some payload =>
    simp only [Checked.bind_eq_ok_iff, Prod.exists, Option.some.injEq, exists_and_left, exists_eq_left']
    refine exists_congr fun ns => exists_congr fun body => and_congr_right fun _ => ?_
    cases hn : metadata? body "name" with
    | none => simp
    | some name =>
      cases hv : metadata? body "resourceVersion" with
      | none => simp
      | some version =>
        cases Text.nonBlank? q.name with
        | none =>
          simp only [Checked.bind_eq_ok_iff, checkName_metadata hn, Checked.guard_eq_ok_iff, Checked.pure_eq_ok_iff]
          simp
        | some requested =>
          simp only [Checked.bind_eq_ok_iff, checkName_metadata hn, Checked.guard_eq_ok_iff, Checked.pure_eq_ok_iff]
          simp

theorem ofRequest_eq_ok_iff : ofRequest r q = .ok e ↔ r.supports q.verb = true ∧ plan r q = .ok e := by
  unfold ofRequest
  by_cases h : r.supports q.verb = true
  · rw [if_pos h]
    cases plan r q <;> simp [h, Except.mapError]
  · rw [if_neg h]
    simp [h]

end ClusterGateway.Effect
