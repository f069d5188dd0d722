import ClusterGateway.Operation.Effect
import ClusterGateway.Proofs.Operation.Manifest

/-!
# What a list leaves out

An object is left out of a list exactly if it is, or lives in, a namespace that is to be hidden.
Blank entries hide nothing, and nothing hides what has neither a namespace nor is one.
-/

namespace ClusterGateway

/-! ## Hidden objects -/

namespace Manifest

/-- The object is this namespace or lives in it. Those of the namespace kind itself are told by their
names, all others by the namespace in their metadata. -/
def IsOf (r : ResourceKind) (ns : String) (object : Json) : Prop :=
  if r.api.group = "" ∧ r.api.kind = "Namespace" then field? object "name" = some (.str ns)
  else r.scope = .namespaced ∧ field? object "namespace" = some (.str ns)

instance (r : ResourceKind) (ns : String) (object : Json) : Decidable (IsOf r ns object) :=
  inferInstanceAs (Decidable (if r.api.group = "" ∧ r.api.kind = "Namespace"
    then field? object "name" = some (.str ns)
    else r.scope = .namespaced ∧ field? object "namespace" = some (.str ns)))

def HiddenBy (namespaces : List String) (r : ResourceKind) (object : Json) : Prop :=
  ∃ ns ∈ namespaces, Text.isBlankText ns = false ∧ IsOf r ns object

instance (namespaces : List String) (r : ResourceKind) (object : Json) : Decidable (HiddenBy namespaces r object) :=
  inferInstanceAs (Decidable (∃ ns ∈ namespaces, Text.isBlankText ns = false ∧ IsOf r ns object))

theorem isOf_iff_name {r : ResourceKind} (h : r.isNamespaceKind = true) {ns : String} {object : Json} :
    IsOf r ns object ↔ field? object "name" = some (.str ns) := by
  have hself : r.api.group = "" ∧ r.api.kind = "Namespace" := by
    simpa [ResourceKind.isNamespaceKind, String.isEmpty_iff] using h
  rw [IsOf, if_pos hself]

theorem isOf_iff_namespace {r : ResourceKind} (h : r.isNamespaceKind = false) {ns : String} {object : Json} :
    IsOf r ns object ↔ r.isNamespaced = true ∧ field? object "namespace" = some (.str ns) := by
  have hother : ¬ (r.api.group = "" ∧ r.api.kind = "Namespace") := by
    simpa [ResourceKind.isNamespaceKind, String.isEmpty_iff] using h
  rw [IsOf, if_neg hother, ResourceKind.isNamespaced, beq_iff_eq]

end Manifest

/-! ## The filter -/

namespace Hidden

variable {namespaces : List String} {r : ResourceKind} {object : Json}

theorem contains_ofList_iff {ns : String} :
    (ofList namespaces).contains ns = true ↔ ns ∈ namespaces ∧ Text.isBlankText ns = false := by
  simp [contains, ofList]

theorem ne_empty_of_isBlankText {ns : String} (h : Text.isBlankText ns = false) : ns ≠ "" := by
  rintro rfl
  cases h

theorem exists_hidden_iff {field : String} :
    (∃ ns ∈ namespaces, Text.isBlankText ns = false ∧ Manifest.field? object field = some (.str ns)) ↔
      ∃ ns, Manifest.metadata? object field = some ns ∧ (ofList namespaces).contains ns = true := by
  simp only [Manifest.metadata?_eq_some_iff, contains_ofList_iff]
  constructor
  · rintro ⟨ns, hmem, hblank, hfield⟩
    exact ⟨ns, ⟨hfield, ne_empty_of_isBlankText hblank⟩, hmem, hblank⟩
  · rintro ⟨ns, ⟨hfield, -⟩, hmem, hblank⟩
    exact ⟨ns, hmem, hblank, hfield⟩

theorem shows_eq_false_iff (h : Hidden) :
    h.shows r object = false ↔
      ∃ field ns, Hidden.field? r = some field ∧ Manifest.metadata? object field = some ns ∧
        h.contains ns = true := by
  unfold shows
  cases Hidden.field? r with
  | none => simp
  | some field => cases hm : Manifest.metadata? object field <;> simp [hm]

theorem shows_ofList_eq_false_iff :
    (ofList namespaces).shows r object = false ↔ Manifest.HiddenBy namespaces r object := by
  rw [shows_eq_false_iff, Manifest.HiddenBy]
  by_cases hself : r.isNamespaceKind = true
  · have hfield : Hidden.field? r = some "name" := by rw [Hidden.field?, if_pos hself]
    simp only [Manifest.isOf_iff_name hself, exists_hidden_iff, hfield, Option.some.injEq, exists_and_left,
      exists_eq_left']
  · rw [Bool.not_eq_true] at hself
    by_cases hplaced : r.isNamespaced = true
    · have hfield : Hidden.field? r = some "namespace" := by simp [Hidden.field?, hself, hplaced]
      simp only [Manifest.isOf_iff_namespace hself, hplaced, true_and, exists_hidden_iff, hfield, Option.some.injEq,
        exists_and_left, exists_eq_left']
    · have hfield : Hidden.field? r = none := by simp [Hidden.field?, hself, hplaced]
      simp [Manifest.isOf_iff_namespace hself, hplaced, hfield]

theorem shows_ofList :
    (ofList namespaces).shows r = fun object => decide (¬ Manifest.HiddenBy namespaces r object) := by
  funext object
  by_cases h : Manifest.HiddenBy namespaces r object
  · rw [shows_ofList_eq_false_iff.mpr h]
    simp [h]
  · have hshows := mt shows_ofList_eq_false_iff.mp h
    rw [Bool.not_eq_false] at hshows
    rw [hshows]
    simp [h]

end Hidden

/-! ## The list that is shown -/

structure Listed (namespaces : List String) (r : ResourceKind) (answer shown : Json) : Prop where
  /-- Items stay in their order, as often and as they are. -/
  items : ∀ items, answer = .arr items →
    shown = .arr (items.filter fun item => ¬ Manifest.HiddenBy namespaces r item)
  all : r.scope = .cluster → ¬ (r.api.group = "" ∧ r.api.kind = "Namespace") → shown = answer
  hidden : ∀ items, shown = .arr items → ∀ item ∈ items, ¬ Manifest.HiddenBy namespaces r item

theorem Manifest.not_hiddenBy_of_cluster {r : ResourceKind} (hscope : r.scope = .cluster)
    (hother : ¬ (r.api.group = "" ∧ r.api.kind = "Namespace")) (namespaces : List String) (object : Json) :
    ¬ HiddenBy namespaces r object := by
  rintro ⟨ns, -, -, hof⟩
  rw [IsOf, if_neg hother, hscope] at hof
  cases hof.1

theorem Effect.listed_conclude (namespaces : List String) (r : ResourceKind) (resource : ApiResource)
    (ns : Option String) (answer : Json) :
    Listed namespaces r answer (conclude (.ofList namespaces) r (.call ⟨resource, ns, .list⟩) answer) := by
  cases answer with
  | arr items =>
    simp only [conclude, Hidden.shows_ofList]
    refine ⟨?_, fun hscope hother => ?_, ?_⟩
    · rintro items ⟨⟩
      rfl
    · have hkeep : ∀ item, ¬ Manifest.HiddenBy namespaces r item :=
        Manifest.not_hiddenBy_of_cluster hscope hother namespaces
      simp [hkeep]
    · rintro shown ⟨⟩ item hitem
      simpa using (List.mem_filter.mp hitem).2
  | _ => exact ⟨nofun, fun _ _ => rfl, nofun⟩

end ClusterGateway
