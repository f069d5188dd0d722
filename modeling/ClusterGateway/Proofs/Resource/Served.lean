import ClusterGateway.Proofs.Resource.Naming
import ClusterGateway.Resource.Kinds

/-!
# The served kinds are a catalog

No two of the served kinds have a name of one normal form, so the table is never refused. This is read off the
characters of the names, where a normal form is cheap to compute.
-/

namespace ClusterGateway

def normalForm (cs : List Char) : List Char :=
  (Text.trimEnd (Text.trimStart cs)).map fun c => if c.toLower = '-' then '_' else c.toLower

theorem toList_normalName (s : String) : (normalName s).toList = normalForm s.toList := by
  simp only [normalName, Text.asciiLower, Text.trim, normalForm, String.toList_map, String.toList_ofList, List.map_map]
  rfl

namespace Catalog

def normalForms (r : ResourceKind) : List (List Char) := r.names.map fun name => normalForm name.toList

theorem toList_mem_normalForms {r : ResourceKind} {n : String} (h : n ∈ r.normalNames) : n.toList ∈ normalForms r := by
  obtain ⟨name, hname, rfl⟩ := mem_normalNames_iff.mp h
  rw [toList_normalName]
  exact List.mem_map_of_mem hname

theorem firstClash?_eq_none_of_pairwise {kinds : List ResourceKind}
    (h : (kinds.map normalForms).Pairwise fun forms forms' => ∀ cs ∈ forms, cs ∉ forms') :
    firstClash? kinds = none := by
  have hapart : ∀ {i j r r' n}, i < j → NamedAt kinds i r n → ¬ NamedAt kinds j r' n := by
    intro i j r r' n hlt hi hj
    obtain ⟨hrow, hn⟩ := namedAt_iff.mp hi
    obtain ⟨hrow', hn'⟩ := namedAt_iff.mp hj
    obtain ⟨hi', rfl⟩ := List.getElem?_eq_some_iff.mp hrow
    obtain ⟨hj', rfl⟩ := List.getElem?_eq_some_iff.mp hrow'
    exact List.pairwise_iff_getElem.mp (List.pairwise_map.mp h) i j hi' hj' hlt _ (toList_mem_normalForms hn)
      (toList_mem_normalForms hn')
  refine (firstClash?_eq_none_iff kinds).mpr fun i j r r' n hi hj => ?_
  rcases Nat.lt_trichotomy i j with hlt | heq | hlt
  · exact absurd hj (hapart hlt hi)
  · exact heq
  · exact absurd hi (hapart hlt hj)

theorem firstClash?_servedKinds : firstClash? servedKinds = none := by
  apply firstClash?_eq_none_of_pairwise
  -- the characters of the names are written out first, which is what takes long to compute
  simp only [servedKinds, normalForms, ResourceKind.names, List.map_cons, List.map_nil, List.cons_append,
    List.nil_append, String.reduceToList]
  decide +kernel

theorem ofTable_servedKinds : ofTable servedKinds = .ok ⟨servedKinds, firstClash?_servedKinds⟩ :=
  ofTable_eq_ok_iff.mpr rfl

end Catalog

end ClusterGateway
