import ClusterGateway.Client.Wire
import ClusterGateway.Proofs.Operation.Addressed
import ClusterGateway.Proofs.Uri.Reference
import ClusterGateway.Resource.Kinds

/-!
# Names at the end of a path

The name of an object ends the path of a request as it is. It holds no slash and no blank, but it
may hold the marks that end a path, and then it does not stay one segment.
-/

namespace ClusterGateway

open Uri

/-! ## Requests -/

theorem Address.IsLabel.unmarked {s : String} (h : IsLabel s) : Unmarked s.toList := by
  intro c hc
  have hedge : ∀ d, endsPath d = true → isLabelChar d = false := by
    intro d hd
    rcases (by simpa [endsPath] using hd : d = '?' ∨ d = '#') with rfl | rfl <;> rfl
  cases he : endsPath c with
  | false => rfl
  | true =>
    have hlabel := (isLabelChar_iff c).mpr (h.chars c hc)
    rw [hedge c he] at hlabel
    cases hlabel

namespace ApiResource

def Plain (r : ApiResource) : Prop :=
  Unmarked r.group.toList ∧ Unmarked r.version.toList ∧ Unmarked r.plural.toList

instance (r : ApiResource) : Decidable r.Plain := inferInstanceAs (Decidable (_ ∧ _ ∧ _))

theorem plain_of_served : ∀ r ∈ servedKinds, r.api.Plain := by
  decide +kernel

theorem Plain.unmarked_root {r : ApiResource} (h : r.Plain) : Unmarked r.root.toList := by
  obtain ⟨hgroup, hversion, -⟩ := h
  unfold root
  split <;> simp [toString, hgroup, hversion, endsPath]

theorem Plain.unmarked_path {r : ApiResource} (h : r.Plain) {ns : Option String}
    (hns : ∀ n, ns = some n → Address.IsLabel n) : Unmarked (r.path ns).toList := by
  have hroot := h.unmarked_root
  obtain ⟨-, -, hplural⟩ := h
  unfold path
  cases ns with
  | none => simp [toString, hroot, hplural, endsPath]
  | some n => simp [toString, hroot, hplural, (hns n rfl).unmarked, endsPath]

theorem head?_path (r : ApiResource) (ns : Option String) : (r.path ns).toList.head? = some '/' := by
  have hroot : r.root.toList.head? = some '/' := by
    unfold root
    split <;> simp [toString]
  cases ns with
  | none => simp [path, toString, hroot]
  | some n => simp [path, toString, hroot]

end ApiResource

namespace Call

theorem target_of_built {method target : String} {body : Option Json} {w : WireRequest}
    (h : built method target body = .ok w) (hs : target.toList.head? = some '/') :
    w.target.toList = target.toList.takeWhile (· ≠ '#') := by
  obtain ⟨rest, hrest⟩ : ∃ rest, target.toList = '/' :: rest := List.head?_eq_some_iff.mp hs
  unfold built at h
  split at h
  · cases h
  · next t ht =>
    have hparse : Target.ofPath target.toList = .ok t := by
      unfold Target.parse at ht
      split at ht
      · cases ht
      · rw [hrest] at ht ⊢
        exact ht
    rw [← Target.join_of_ofPath hparse, ← Except.ok.inj h]
    cases t.query <;> simp

theorem named_eq_ok_iff {path name target : String} :
    named path name = .ok target ↔ name ≠ "" ∧ path ++ "/" ++ name = target := by
  unfold named
  split
  · next h => simp [String.isEmpty_iff.mp h]
  · next h => simp [toString, mt String.isEmpty_iff.mpr h]

theorem target_of_request {c : Call} {name : String} {w : WireRequest} (hname : c.action.name? = some name)
    (h : c.request = .ok w) : ∃ tail, (tail = "" ∨ tail = "?") ∧
      w.target.toList = (c.resource.path c.ns ++ "/" ++ name ++ tail).toList.takeWhile (· ≠ '#') := by
  have hbuilt : ∃ method tail body, (tail = "" ∨ tail = "?") ∧
      built method (c.resource.path c.ns ++ "/" ++ name ++ tail) body = .ok w := by
    obtain ⟨resource, ns, action⟩ := c
    unfold request at h
    cases action with
    | list | create body => cases hname
    | get n =>
      cases hname
      simp only [Checked.bind_eq_ok_iff, named_eq_ok_iff] at h
      obtain ⟨_, ⟨-, rfl⟩, h⟩ := h
      exact ⟨_, "", _, .inl rfl, by simpa using h⟩
    | replace n body =>
      cases hname
      simp only [Checked.bind_eq_ok_iff, named_eq_ok_iff] at h
      obtain ⟨_, -, _, ⟨-, rfl⟩, h⟩ := h
      exact ⟨_, "?", _, .inr rfl, h⟩
    | delete n =>
      cases hname
      simp only [Checked.bind_eq_ok_iff, named_eq_ok_iff] at h
      obtain ⟨_, ⟨-, rfl⟩, h⟩ := h
      exact ⟨_, "?", _, .inr rfl, h⟩
  obtain ⟨method, tail, body, htail, hb⟩ := hbuilt
  exact ⟨tail, htail, target_of_built hb (by simp [ApiResource.head?_path])⟩

section
variable {c : Call} {name : String} {w : WireRequest} (hbase : Unmarked (c.resource.path c.ns).toList)
  (hname : c.action.name? = some name) (h : c.request = .ok w)
include hbase hname h

theorem path_of_request : (Reference.ofText w.target.toList).path =
    (c.resource.path c.ns).toList ++ '/' :: name.toList.takeWhile (!endsPath ·) := by
  obtain ⟨tail, htail, hw⟩ := target_of_request hname h
  have htarget : (c.resource.path c.ns ++ "/" ++ name ++ tail).toList =
      (c.resource.path c.ns).toList ++ '/' :: (name.toList ++ tail.toList) := by simp
  have hend : tail.toList.takeWhile (!endsPath ·) = [] := by
    rcases htail with rfl | rfl <;> rfl
  rw [hw, Reference.path_ofText_takeWhile, htarget, Reference.path_named hbase, List.takeWhile_append, hend,
    List.append_nil]
  -- where the name has a mark its end is not reached, and otherwise it is the whole of it
  split
  · next hlength => rw [(List.takeWhile_prefix _).eq_of_length hlength]
  · rfl

theorem rest_of_request (hmarks : Unmarked name.toList) :
    (Reference.ofText w.target.toList).query.getD [] = [] ∧ (Reference.ofText w.target.toList).fragment = none := by
  obtain ⟨tail, htail, hw⟩ := target_of_request hname h
  have htarget : Unmarked (c.resource.path c.ns ++ "/" ++ name).toList := by simp [hbase, hmarks, endsPath]
  have hhash : '#' ∉ (c.resource.path c.ns ++ "/" ++ name ++ tail).toList := by
    rw [String.toList_append, List.mem_append, not_or]
    refine ⟨htarget.notMem rfl, ?_⟩
    rcases htail with rfl | rfl <;> decide +kernel
  -- there is no fragment to be cut off
  rw [hw, List.takeWhile_eq_self_iff.mpr (forall_ne_of_notMem hhash), String.toList_append]
  rcases htail with rfl | rfl
  · rw [String.toList_empty, List.append_nil, Reference.ofText_of_unmarked htarget]
    exact ⟨rfl, rfl⟩
  · have hmark : "?".toList = ['?'] := rfl
    rw [hmark, Reference.ofText_of_empty_query htarget]
    exact ⟨rfl, rfl⟩

end

end Call

/-! ## What stays of a name -/

namespace Address

theorem slash_notMem_of_isName {name : String} (h : isName name = true) : '/' ∉ name.toList := by
  simp only [isName, Bool.and_eq_true, List.all_eq_true, isNameChar_iff] at h
  exact fun hmem => (h.2 '/' hmem).1 rfl

/-- A name that passes its check stays one segment of a path, and no more than that, exactly if no
mark is in it. The path that is sent for an object ends where its name has its first mark, so with
that at the front of a name it is the path of the collection. -/
theorem isName_stays_segment_iff {name : String} (h : isName name = true) :
    (∀ base : String, Unmarked base.toList →
      let target := (base ++ "/" ++ name).toList
      Reference.ofText target = ⟨target, none, none⟩ ∧ (Reference.ofText target).segment = name.toList ↔
        Unmarked name.toList) ∧
      ∀ kind ∈ servedKinds, ∀ q c w, Effect.ofRequest kind q = .ok (.call c) → c.action.name? = some name →
        c.request = .ok w →
          let sent := Reference.ofText w.target.toList
          sent.path = (c.resource.path c.ns).toList ++ '/' :: name.toList.takeWhile (!endsPath ·) ∧
            (sent.segment = name.toList ∧ sent.query.getD [] = [] ∧ sent.fragment = none ↔
              Unmarked name.toList) := by
  have hslash := slash_notMem_of_isName h
  refine ⟨fun base hbase => ?_, fun kind hkind q c w hq hname hw => ?_⟩
  · simpa using Reference.whole_named_iff hbase hslash
  · have hplan := (Effect.ofRequest_eq_ok_iff.mp hq).2
    have hresource : c.resource = kind.api := (Effect.plan_fits kind q _ hplan).2 c rfl
    have hbase : Unmarked (c.resource.path c.ns).toList :=
      (hresource ▸ ApiResource.plain_of_served kind hkind).unmarked_path (Effect.plan_addressed kind q _ hplan).label
    have hpath := Call.path_of_request hbase hname hw
    have hsegment := Reference.segment_of_path hpath fun hmem => hslash (List.takeWhile_subset _ hmem)
    refine ⟨hpath, ?_⟩
    rw [hsegment, takeWhile_eq_self_iff_unmarked]
    exact ⟨And.left, fun hmarks => ⟨hmarks, Call.rest_of_request hbase hname hw hmarks⟩⟩

theorem isName_stays_segment_of_colons :
    let name := "system:aggregate-to-admin"
    let target := "/apis/rbac.authorization.k8s.io/v1/clusterroles/system:aggregate-to-admin".toList
    isName name = true ∧ Reference.ofText target = ⟨target, none, none⟩ ∧
      (Reference.ofText target).segment = name.toList := by
  intro name target
  have hname : isName name = true := by decide +kernel
  have hbase : Unmarked "/apis/rbac.authorization.k8s.io/v1/clusterroles".toList := by decide +kernel
  have hmarks : Unmarked name.toList := by decide +kernel
  exact ⟨hname, ((isName_stays_segment_iff hname).1 _ hbase).mpr hmarks⟩

/-- A name that passes, and that turns the deletion of one pod into one of all that carry a label. -/
theorem not_isName_stays_segment_of_mark :
    let name := "?labelSelector=app"
    let pod : ApiResource := ⟨"", "v1", "Pod", "pods"⟩
    let q : Request := { verb := .delete, kind := "pod", ns := some "apps", name := some name }
    isName name = true ∧
      (∃ kind ∈ servedKinds, Effect.ofRequest kind q = .ok (.call ⟨pod, some "apps", .delete name⟩)) ∧
      Call.request ⟨pod, some "apps", .delete name⟩ =
        .ok ⟨"DELETE", "/api/v1/namespaces/apps/pods/?labelSelector=app?", some (.obj [])⟩ ∧
      Reference.ofText (pod.path (some "apps") ++ "/" ++ name).toList =
        ⟨"/api/v1/namespaces/apps/pods/".toList, some "labelSelector=app".toList, none⟩ := by
  intro name pod q
  exact ⟨by decide +kernel, ⟨servedKinds[1], List.getElem_mem _, by decide +kernel⟩, by decide +kernel,
    by decide +kernel⟩

end Address

end ClusterGateway
