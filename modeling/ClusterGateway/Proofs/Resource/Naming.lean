import ClusterGateway.Access.Gate
import Mathlib

/-!
# Names of kinds

A table is a catalog exactly if no name belongs to two of its rows, in whatever spelling. The kind
that a catalog finds is then the only row of the name, and a table that is none is refused for the
first name that comes again in a later row.
-/

namespace ClusterGateway.Catalog

def NamedAt (kinds : List ResourceKind) (i : Nat) (r : ResourceKind) (n : String) : Prop :=
  kinds[i]? = some r ∧ ∃ name ∈ r.names, normalName name = n

/-- The name at this place of this row belongs to an earlier row too. -/
def ClashesAt (kinds : List ResourceKind) (j m : Nat) : Prop :=
  ∃ later name, kinds[j]? = some later ∧ later.names[m]? = some name ∧
    ∃ i earlier, i < j ∧ NamedAt kinds i earlier (normalName name)

/-- Row by row and name by name, this name is the first that an earlier row has too. -/
structure IsFirstClash (kinds : List ResourceKind) (clash : NameClash) (i j m : Nat) : Prop where
  lt : i < j
  earlier : ∃ r, NamedAt kinds i r clash.name ∧ r.name = clash.earlier
  later : ∃ r name, kinds[j]? = some r ∧ r.names[m]? = some name ∧ normalName name = clash.name ∧
    r.name = clash.later
  only : ∀ i' r, i' < j → NamedAt kinds i' r clash.name → i' = i
  first : ∀ j' m', j' < j ∨ (j' = j ∧ m' < m) → ¬ ClashesAt kinds j' m'

theorem mem_normalNames_iff {r : ResourceKind} {n : String} :
    n ∈ r.normalNames ↔ ∃ name ∈ r.names, normalName name = n :=
  List.mem_map

theorem namedAt_iff {kinds : List ResourceKind} {i : Nat} {r : ResourceKind} {n : String} :
    NamedAt kinds i r n ↔ kinds[i]? = some r ∧ n ∈ r.normalNames := by
  rw [NamedAt, mem_normalNames_iff]

/-! ## Tables without clashes -/

theorem exists_clashesAt {kinds : List ResourceKind} {i j : Nat} {r r' : ResourceKind} {n : String}
    (hi : NamedAt kinds i r n) (hj : NamedAt kinds j r' n) (hlt : i < j) : ∃ m, ClashesAt kinds j m := by
  obtain ⟨hrow, name, hname, hn⟩ := hj
  obtain ⟨m, hm⟩ := List.mem_iff_getElem?.mp hname
  exact ⟨m, r', name, hrow, hm, i, r, hlt, hn ▸ hi⟩

theorem forall_not_clashesAt_iff (kinds : List ResourceKind) :
    (∀ j m, ¬ ClashesAt kinds j m) ↔
      ∀ i j r r' n, NamedAt kinds i r n → NamedAt kinds j r' n → i = j := by
  constructor
  · intro h i j r r' n hi hj
    rcases Nat.lt_trichotomy i j with hlt | heq | hlt
    · obtain ⟨m, hm⟩ := exists_clashesAt hi hj hlt
      exact absurd hm (h j m)
    · exact heq
    · obtain ⟨m, hm⟩ := exists_clashesAt hj hi hlt
      exact absurd hm (h i m)
  · rintro h j m ⟨later, name, hrow, hname, i, earlier, hlt, hi⟩
    have hj : NamedAt kinds j later (normalName name) := ⟨hrow, name, List.mem_of_getElem? hname, rfl⟩
    exact absurd (h i j _ _ _ hi hj) (Nat.ne_of_lt hlt)

/-! ## The search for a clash -/

section
variable {before rest : List ResourceKind} {r : ResourceKind}

theorem getElem?_row : (before ++ r :: rest)[before.length]? = some r := by simp

theorem namedAt_append_of_lt {i : Nat} (h : i < before.length) {e : ResourceKind} {n : String} :
    NamedAt (before ++ r :: rest) i e n ↔ before[i]? = some e ∧ n ∈ e.normalNames := by
  rw [namedAt_iff, List.getElem?_append_left h]

theorem clashesAt_row_iff {m : Nat} :
    ClashesAt (before ++ r :: rest) before.length m ↔
      ∃ name, r.names[m]? = some name ∧ ∃ e ∈ before, normalName name ∈ e.normalNames := by
  constructor
  · rintro ⟨later, name, hrow, hname, i, e, hlt, hi⟩
    obtain rfl : r = later := Option.some.inj (getElem?_row.symm.trans hrow)
    obtain ⟨he, hn⟩ := (namedAt_append_of_lt hlt).mp hi
    exact ⟨name, hname, e, List.mem_of_getElem? he, hn⟩
  · rintro ⟨name, hname, e, he, hn⟩
    obtain ⟨i, hi⟩ := List.mem_iff_getElem?.mp he
    have hlt : i < before.length := (List.getElem?_eq_some_iff.mp hi).1
    exact ⟨r, name, getElem?_row, hname, i, e, hlt, (namedAt_append_of_lt hlt).mpr ⟨hi, hn⟩⟩

theorem find?_named_eq_none_iff {n : String} :
    before.find? (·.normalNames.contains n) = none ↔ ∀ e ∈ before, n ∉ e.normalNames := by
  simp [List.find?_eq_none]

end

theorem findSome?_names {before : List ResourceKind} {r e : ResourceKind} {n : String}
    (h : (r.normalNames.findSome? fun n => (before.find? (·.normalNames.contains n)).map (n, ·)) = some (n, e)) :
    e ∈ before ∧ n ∈ e.normalNames ∧ ∃ m name, r.names[m]? = some name ∧ normalName name = n ∧
      ∀ (m' : Nat) name', m' < m → r.names[m']? = some name' →
        ∀ e' ∈ before, normalName name' ∉ e'.normalNames := by
  rw [ResourceKind.normalNames, List.findSome?_map, List.findSome?_eq_some_iff] at h
  obtain ⟨passed, name, left, hnames, hfound, hpassed⟩ := h
  obtain ⟨e', he', heq⟩ := Option.map_eq_some_iff.mp hfound
  obtain ⟨rfl, rfl⟩ := Prod.mk.inj heq
  refine ⟨List.mem_of_find?_eq_some he', by simpa using List.find?_some he', passed.length, name, ?_, rfl, ?_⟩
  · simp [hnames]
  · intro m' name' hlt hname'
    rw [hnames, List.getElem?_append_left hlt] at hname'
    have hnone := hpassed name' (List.mem_of_getElem? hname')
    exact find?_named_eq_none_iff.mp (by simpa using hnone)

theorem findSome?_names_eq_none {before : List ResourceKind} {r : ResourceKind}
    (h : (r.normalNames.findSome? fun n => (before.find? (·.normalNames.contains n)).map (n, ·)) = none) :
    ∀ name ∈ r.names, ∀ e ∈ before, normalName name ∉ e.normalNames := by
  rw [ResourceKind.normalNames, List.findSome?_map, List.findSome?_eq_none_iff] at h
  intro name hname
  exact find?_named_eq_none_iff.mp (by simpa using h name hname)

theorem eq_of_namedAt_of_first {kinds : List ResourceKind} {i i' j m : Nat} {e e' : ResourceKind} {n : String}
    (hfirst : ∀ j' m', j' < j ∨ (j' = j ∧ m' < m) → ¬ ClashesAt kinds j' m') (hlt : i < j) (hlt' : i' < j)
    (h : NamedAt kinds i e n) (h' : NamedAt kinds i' e' n) : i' = i := by
  rcases Nat.lt_trichotomy i i' with hii | heq | hii
  · obtain ⟨m', hm'⟩ := exists_clashesAt h h' hii
    exact absurd hm' (hfirst i' m' (.inl hlt'))
  · exact heq.symm
  · obtain ⟨m', hm'⟩ := exists_clashesAt h' h hii
    exact absurd hm' (hfirst i m' (.inl hlt))

/-- The search goes on row by row; `before` holds the rows that it has passed without a clash. -/
theorem go_spec (before rest : List ResourceKind)
    (hpassed : ∀ j m, j < before.length → ¬ ClashesAt (before ++ rest) j m) :
    match firstClash?.go before rest with
    | none => ∀ j m, ¬ ClashesAt (before ++ rest) j m
    | some clash => ∃ i j m, IsFirstClash (before ++ rest) clash i j m := by
  induction rest generalizing before with
  | nil =>
    rintro j m ⟨later, name, hrow, hrest⟩
    have hlt : j < before.length := by
      rw [List.append_nil] at hrow
      exact (List.getElem?_eq_some_iff.mp hrow).1
    exact hpassed j m hlt ⟨later, name, hrow, hrest⟩
  | cons r rest ih =>
    cases hfound : r.normalNames.findSome? fun n => (before.find? (·.normalNames.contains n)).map (n, ·) with
    | some found =>
      obtain ⟨n, e⟩ := found
      obtain ⟨he, hn, m, name, hname, rfl, hbefore⟩ := findSome?_names hfound
      obtain ⟨i, hi⟩ := List.mem_iff_getElem?.mp he
      have hlt : i < before.length := (List.getElem?_eq_some_iff.mp hi).1
      have hnamed : NamedAt (before ++ r :: rest) i e (normalName name) :=
        (namedAt_append_of_lt hlt).mpr ⟨hi, hn⟩
      have hfirst : ∀ j' m', j' < before.length ∨ (j' = before.length ∧ m' < m) →
          ¬ ClashesAt (before ++ r :: rest) j' m' := by
        rintro j' m' (hj | ⟨rfl, hm⟩)
        · exact hpassed j' m' hj
        · rw [clashesAt_row_iff]
          rintro ⟨name', hname', e', he', hn'⟩
          exact hbefore m' name' hm hname' e' he' hn'
      simp only [firstClash?.go, hfound]
      exact ⟨i, before.length, m, hlt, ⟨e, hnamed, rfl⟩, ⟨r, name, getElem?_row, hname, rfl, rfl⟩,
        fun i' e' hlt' h' => eq_of_namedAt_of_first hfirst hlt hlt' hnamed h', hfirst⟩
    | none =>
      have hsplit : before ++ r :: rest = (before ++ [r]) ++ rest := by simp
      simp only [firstClash?.go, hfound]
      rw [hsplit]
      refine ih (before ++ [r]) fun j m hj => ?_
      rw [← hsplit]
      rcases Nat.lt_or_ge j before.length with hlt | hge
      · exact hpassed j m hlt
      · obtain rfl : j = before.length := by simp at hj; omega
        rw [clashesAt_row_iff]
        rintro ⟨name, hname, e, he, hn⟩
        exact findSome?_names_eq_none hfound name (List.mem_of_getElem? hname) e he hn

theorem firstClash?_eq_none_iff (kinds : List ResourceKind) :
    firstClash? kinds = none ↔ ∀ i j r r' n, NamedAt kinds i r n → NamedAt kinds j r' n → i = j := by
  have hspec := go_spec [] kinds (fun j _ h => absurd h (Nat.not_lt_zero j))
  rw [← forall_not_clashesAt_iff]
  constructor
  · intro h
    rw [firstClash?] at h
    rw [h] at hspec
    exact hspec
  · intro h
    cases hc : firstClash? kinds with
    | none => rfl
    | some clash =>
      rw [firstClash?] at hc
      rw [hc] at hspec
      obtain ⟨i, j, m, hlt, ⟨e, he, -⟩, ⟨r, name, hrow, hname, hn, -⟩, -, -⟩ := hspec
      exact absurd ⟨r, name, hrow, hname, i, e, hlt, hn ▸ he⟩ (h j m)

theorem isFirstClash_of_firstClash? {kinds : List ResourceKind} {clash : NameClash}
    (h : firstClash? kinds = some clash) : ∃ i j m, IsFirstClash kinds clash i j m := by
  have hspec := go_spec [] kinds (fun j _ h => absurd h (Nat.not_lt_zero j))
  rw [firstClash?] at h
  rw [h] at hspec
  exact hspec

/-! ## Catalogs -/

theorem ofTable_eq_ok_iff {kinds : List ResourceKind} {c : Catalog} :
    ofTable kinds = .ok c ↔ c.kinds = kinds := by
  unfold ofTable
  split
  · next h =>
    constructor
    · rintro ⟨⟩
      rfl
    · rintro rfl
      rfl
  · next clash h =>
    constructor
    · rintro ⟨⟩
    · rintro rfl
      rw [c.unambiguous] at h
      cases h

theorem ofTable_eq_error_iff {kinds : List ResourceKind} {clash : NameClash} :
    ofTable kinds = .error clash ↔ firstClash? kinds = some clash := by
  unfold ofTable
  split
  · next h => simp [h]
  · next c h => simp [h]

variable (c : Catalog)

theorem place_unique {i j : Nat} {r r' : ResourceKind} {n : String} (hi : NamedAt c.kinds i r n)
    (hj : NamedAt c.kinds j r' n) : i = j :=
  (firstClash?_eq_none_iff c.kinds).mp c.unambiguous i j r r' n hi hj

theorem find?_eq_none_iff {k : String} : c.find? k = none ↔ ∀ i r, ¬ NamedAt c.kinds i r (normalName k) := by
  simp only [find?, List.find?_eq_none, ResourceKind.isNamed, List.contains_iff_mem, namedAt_iff, not_and]
  constructor
  · intro h i r hi
    exact h r (List.mem_of_getElem? hi)
  · intro h r hr
    obtain ⟨i, hi⟩ := List.mem_iff_getElem?.mp hr
    exact h i r hi

theorem namedAt_of_find? {k : String} {r : ResourceKind} (h : c.find? k = some r) :
    ∃ i, NamedAt c.kinds i r (normalName k) := by
  obtain ⟨i, hi⟩ := List.mem_iff_getElem?.mp (List.mem_of_find?_eq_some h)
  refine ⟨i, namedAt_iff.mpr ⟨hi, ?_⟩⟩
  simpa [ResourceKind.isNamed] using List.find?_some h

theorem find?_eq_some_iff {k : String} {r : ResourceKind} :
    c.find? k = some r ↔ ∃ i, NamedAt c.kinds i r (normalName k) := by
  refine ⟨c.namedAt_of_find?, fun ⟨i, hi⟩ => ?_⟩
  cases h : c.find? k with
  | none => exact absurd hi (c.find?_eq_none_iff.mp h i r)
  | some r' =>
    obtain ⟨j, hj⟩ := c.namedAt_of_find? h
    obtain rfl := c.place_unique hi hj
    rw [← hi.1, ← hj.1]

theorem lookup_eq_ok_iff {k : String} {r : ResourceKind} : c.lookup k = .ok r ↔ c.find? k = some r := by
  unfold lookup
  cases c.find? k <;> simp

theorem lookup_eq_error {k : String} (h : c.find? k = none) : c.lookup k = .error (.unsupportedKind k) := by
  rw [lookup, h]

theorem find?_name {i : Nat} {r : ResourceKind} (h : c.kinds[i]? = some r) : c.find? r.name = some r :=
  c.find?_eq_some_iff.mpr ⟨i, h, r.name, List.mem_cons_self, rfl⟩

/-- A table is a catalog exactly if no two rows have a name of one normal form. One that is none is
refused for the first such name, row by row and name by name, with the row that had it before. In a
catalog a text finds the row, the only one, that has a name of its normal form, and is refused as it
is where there is none; a row is found by the name that it is called here. -/
theorem ofTable_resolves_names (kinds : List ResourceKind) :
    ((∃ c, ofTable kinds = .ok c) ↔ ∀ i j r r' n, NamedAt kinds i r n → NamedAt kinds j r' n → i = j) ∧
    (∀ clash, ofTable kinds = .error clash → ∃ i j m, IsFirstClash kinds clash i j m) ∧
    ∀ c, ofTable kinds = .ok c →
      (∀ k r, c.lookup k = .ok r ↔ ∃ i, NamedAt kinds i r (normalName k)) ∧
      (∀ k, (∀ i r, ¬ NamedAt kinds i r (normalName k)) → c.lookup k = .error (.unsupportedKind k)) ∧
      (∀ r ∈ kinds, c.lookup r.name = .ok r) ∧
      ∀ k r, c.lookup k = .ok r → c.lookup r.name = .ok r := by
  refine ⟨?_, fun clash h => isFirstClash_of_firstClash? (ofTable_eq_error_iff.mp h), fun c h => ?_⟩
  · rw [← firstClash?_eq_none_iff]
    constructor
    · rintro ⟨c, h⟩
      rw [← ofTable_eq_ok_iff.mp h]
      exact c.unambiguous
    · intro h
      exact ⟨⟨kinds, h⟩, ofTable_eq_ok_iff.mpr rfl⟩
  · obtain rfl := ofTable_eq_ok_iff.mp h
    have hname : ∀ r ∈ c.kinds, c.lookup r.name = .ok r := by
      intro r hr
      obtain ⟨i, hi⟩ := List.mem_iff_getElem?.mp hr
      exact c.lookup_eq_ok_iff.mpr (c.find?_name hi)
    refine ⟨fun k r => ?_, fun k hk => ?_, hname, fun k r hk => hname r ?_⟩
    · rw [lookup_eq_ok_iff, find?_eq_some_iff]
    · exact c.lookup_eq_error (c.find?_eq_none_iff.mpr hk)
    · exact List.mem_of_find?_eq_some (c.lookup_eq_ok_iff.mp hk)

theorem ofTable_resolves_names_of_spellings :
    let pod : ResourceKind := ⟨"pod", ["PODS"], ⟨"", "v1", "Pod", "pods"⟩, .namespaced, .uniform .reader, "", ""⟩
    let binding : ResourceKind := ⟨"role_binding", [], ⟨"rbac.authorization.k8s.io", "v1", "RoleBinding", "rolebindings"⟩,
      .namespaced, .uniform .reader, "", ""⟩
    let other : ResourceKind := ⟨"other", ["x", " Role-Binding"], ⟨"", "v1", "Other", "Pod"⟩, .cluster,
      .uniform .reader, "", ""⟩
    (∃ c, ofTable [pod, binding] = .ok c ∧ c.lookup "\trole-BINDING " = .ok binding ∧
      c.lookup "role binding" = .error (.unsupportedKind "role binding")) ∧
    ofTable [pod, binding, other] = .error ⟨"role_binding", "role_binding", "other"⟩ ∧
    ∃ i j m, IsFirstClash [pod, binding, other] ⟨"role_binding", "role_binding", "other"⟩ i j m := by
  intro pod binding other
  have hpod : pod.normalNames = ["pod", "pods", "pod", "pods"] := by cbv
  have hbinding : binding.normalNames = ["role_binding", "rolebinding", "rolebindings"] := by cbv
  have hother : other.normalNames = ["other", "x", "role_binding", "other", "pod"] := by cbv
  -- the search reads the normal forms of the names and nothing else of a row
  have hsearch : ∀ p b o : ResourceKind, p.normalNames = pod.normalNames → b.normalNames = binding.normalNames →
      o.normalNames = other.normalNames → firstClash? [p, b] = none ∧
        firstClash? [p, b, o] = some ⟨"role_binding", b.name, o.name⟩ := by
    intro p b o hp hb ho
    rw [hpod] at hp
    rw [hbinding] at hb
    rw [hother] at ho
    simp [firstClash?, firstClash?.go, hp, hb, ho]
  let c : Catalog := ⟨[pod, binding], (hsearch pod binding other rfl rfl rfl).1⟩
  have hc : ofTable [pod, binding] = .ok c := ofTable_eq_ok_iff.mpr rfl
  obtain ⟨hfound, hmissed, -, -⟩ := (ofTable_resolves_names [pod, binding]).2.2 c hc
  have hclash : ofTable [pod, binding, other] = .error ⟨"role_binding", "role_binding", "other"⟩ :=
    ofTable_eq_error_iff.mpr (hsearch pod binding other rfl rfl rfl).2
  have hsame : normalName "role_binding" = normalName "\trole-BINDING " := by cbv
  have hnone : c.find? "role binding" = none := by cbv
  exact ⟨⟨c, hc, (hfound _ _).mpr ⟨1, rfl, "role_binding", by decide, hsame⟩,
    hmissed _ (c.find?_eq_none_iff.mp hnone)⟩, hclash,
    (ofTable_resolves_names [pod, binding, other]).2.1 _ hclash⟩

end ClusterGateway.Catalog
