import ClusterGateway.Proofs.Operation.Checked
import ClusterGateway.Proofs.Text.Trim

/-!
# Names and namespaces that are accepted

Which texts pass the checks, said without them. Both kinds hold no blanks, so they are what is
left of them when they are trimmed, and pass again wherever they are checked again.
-/

namespace ClusterGateway

namespace Address

/-- A name that stays one word of a path and of a command line. -/
structure IsObjectName (s : String) : Prop where
  ne_empty : s ≠ ""
  size_le : s.utf8ByteSize ≤ 253
  ne_dot : s ≠ "."
  ne_dots : s ≠ ".."
  head_ne_dash : s.toList.head? ≠ some '-'
  chars : ∀ c ∈ s.toList, c ≠ '/' ∧ c ≠ '%' ∧ Text.isBlank c = false ∧ Text.isControl c = false

/-- A DNS-1123 label, its length in bytes. -/
structure IsLabel (s : String) : Prop where
  size_pos : 0 < s.utf8ByteSize
  size_le : s.utf8ByteSize ≤ 63
  chars : ∀ c ∈ s.toList, ('a' ≤ c ∧ c ≤ 'z') ∨ ('0' ≤ c ∧ c ≤ '9') ∨ c = '-'
  head_ne_dash : s.toList.head? ≠ some '-'
  last_ne_dash : s.toList.getLast? ≠ some '-'

/-! ## Names -/

theorem isNameChar_iff (c : Char) :
    isNameChar c = true ↔ c ≠ '/' ∧ c ≠ '%' ∧ Text.isBlank c = false ∧ Text.isControl c = false := by
  simp [isNameChar, and_assoc]

theorem isObjectName_iff (s : String) : IsObjectName s ↔ s ≠ "" ∧ isName s = true := by
  simp only [isName, Bool.and_eq_true, decide_eq_true_eq, bne_iff_ne, List.all_eq_true, isNameChar_iff]
  constructor
  · intro h
    exact ⟨h.ne_empty, ⟨⟨⟨h.size_le, h.ne_dot⟩, h.ne_dots⟩, h.head_ne_dash⟩, h.chars⟩
  · rintro ⟨hne, ⟨⟨⟨hsize, hdot⟩, hdots⟩, hdash⟩, hchars⟩
    exact ⟨hne, hsize, hdot, hdots, hdash, hchars⟩

theorem checkName_eq_ok_iff {s t : String} : checkName s = .ok t ↔ isName s = true ∧ s = t := by
  unfold checkName
  split
  · next h => simp [h]
  · next h => simp [h]

theorem IsObjectName.nonBlank? {s : String} (h : IsObjectName s) : Text.nonBlank? (some s) = some s :=
  Text.nonBlank?_eq_self (fun c hc => (h.chars c hc).2.2.1) h.ne_empty

theorem targetName_eq_ok_iff {r : ResourceKind} {name : Option String} {n : String} :
    targetName r name = .ok n ↔ Text.nonBlank? name = some n ∧ IsObjectName n := by
  unfold targetName
  cases h : Text.nonBlank? name with
  | none => simp
  | some m =>
    obtain ⟨_, _, _, hne⟩ := Text.nonBlank?_eq_some_iff.mp h
    simp only [checkName_eq_ok_iff, Option.some.injEq, isObjectName_iff]
    constructor
    · rintro ⟨hm, rfl⟩
      exact ⟨rfl, hne, hm⟩
    · rintro ⟨rfl, -, hm⟩
      exact ⟨hm, rfl⟩

/-! ## Namespaces -/

theorem isLabelEdge_iff (c : Char) :
    isLabelEdge c = true ↔ ('a' ≤ c ∧ c ≤ 'z') ∨ ('0' ≤ c ∧ c ≤ '9') := by
  simp [isLabelEdge, Char.isLower, Char.isDigit, Char.le_def]

theorem isLabelChar_iff (c : Char) :
    isLabelChar c = true ↔ ('a' ≤ c ∧ c ≤ 'z') ∨ ('0' ≤ c ∧ c ≤ '9') ∨ c = '-' := by
  simp [isLabelChar, isLabelEdge_iff, or_assoc]

theorem isLabelEdge_iff_ne_dash {c : Char} (h : isLabelChar c = true) : isLabelEdge c = true ↔ c ≠ '-' := by
  constructor
  · rintro he rfl
    exact absurd he (by decide)
  · intro hne
    simpa [isLabelChar, hne] using h

theorem isNamespace_iff (s : String) : isNamespace s = true ↔ IsLabel s := by
  simp only [isNamespace, Bool.and_eq_true, decide_eq_true_eq, List.all_eq_true]
  constructor
  · rintro ⟨⟨⟨hsize, hhead⟩, hlast⟩, hchars⟩
    have hedge : ∀ {o : Option Char}, o.any isLabelEdge = true → o ≠ some '-' := by
      rintro _ h rfl
      exact absurd h (by decide)
    refine ⟨?_, hsize, fun c hc => (isLabelChar_iff c).mp (hchars c hc), hedge hhead, hedge hlast⟩
    rw [Nat.pos_iff_ne_zero, Ne, String.utf8ByteSize_eq_zero_iff]
    rintro rfl
    exact absurd hhead (by decide)
  · intro h
    have hchars : ∀ c ∈ s.toList, isLabelChar c = true := fun c hc => (isLabelChar_iff c).mpr (h.chars c hc)
    have hne : s.toList ≠ [] := by
      intro he
      have : s = "" := String.toList_eq_nil_iff.mp he
      exact absurd h.size_pos (by simp [this])
    refine ⟨⟨⟨h.size_le, ?_⟩, ?_⟩, hchars⟩
    · rw [List.head?_eq_some_head hne, Option.any_some, isLabelEdge_iff_ne_dash (hchars _ (List.head_mem hne))]
      intro he
      exact h.head_ne_dash (by rw [List.head?_eq_some_head hne, he])
    · rw [List.getLast?_eq_some_getLast hne, Option.any_some,
        isLabelEdge_iff_ne_dash (hchars _ (List.getLast_mem hne))]
      intro he
      exact h.last_ne_dash (by rw [List.getLast?_eq_some_getLast hne, he])

theorem checkNamespace_eq_ok_iff {s t : String} : checkNamespace s = .ok t ↔ IsLabel s ∧ s = t := by
  rw [← isNamespace_iff]
  unfold checkNamespace
  split
  · next h => simp [h]
  · next h => simp [h]

theorem toNat_of_isLabelChar {c : Char} (h : ('a' ≤ c ∧ c ≤ 'z') ∨ ('0' ≤ c ∧ c ≤ '9') ∨ c = '-') :
    0x2D ≤ c.toNat ∧ c.toNat ≤ 0x7A := by
  simp only [Char.le_def, UInt32.le_iff_toNat_le] at h
  rcases h with h | h | rfl
  · exact ⟨Nat.le_trans (by decide) h.1, h.2⟩
  · exact ⟨Nat.le_trans (by decide) h.1, Nat.le_trans h.2 (by decide)⟩
  · decide

theorem isBlank_of_isLabelChar {c : Char} (h : ('a' ≤ c ∧ c ≤ 'z') ∨ ('0' ≤ c ∧ c ≤ '9') ∨ c = '-') :
    Text.isBlank c = false := by
  have hn := toNat_of_isLabelChar h
  simp only [Text.isBlank, Bool.or_eq_false_iff, Bool.and_eq_false_iff, decide_eq_false_iff_not, beq_eq_false_iff_ne]
  omega

theorem IsLabel.nonBlank? {s : String} (h : IsLabel s) : Text.nonBlank? (some s) = some s := by
  refine Text.nonBlank?_eq_self (fun c hc => isBlank_of_isLabelChar (h.chars c hc)) ?_
  rintro rfl
  exact absurd h.size_pos (by decide)

/-- A kind with namespaces needs one, and the others take none whatever is given. -/
theorem targetNamespace_eq_ok_iff {r : ResourceKind} {ns t : Option String} :
    targetNamespace r ns = .ok t ↔
      (r.isNamespaced = true ∧ ∃ n, t = some n ∧ Text.nonBlank? ns = some n ∧ IsLabel n) ∨
        (r.isNamespaced = false ∧ t = none) := by
  unfold targetNamespace
  cases r.isNamespaced with
  | false => simp [eq_comm]
  | true =>
    cases Text.nonBlank? ns with
    | none => simp
    | some m =>
      simp only [if_true, Checked.map_eq_ok_iff, checkNamespace_eq_ok_iff, Option.some.injEq]
      constructor
      · rintro ⟨n, ⟨hm, rfl⟩, rfl⟩
        exact .inl ⟨trivial, m, rfl, rfl, hm⟩
      · rintro (⟨-, n, rfl, rfl, hm⟩ | ⟨h, -⟩)
        · exact ⟨m, ⟨hm, rfl⟩, rfl⟩
        · cases h

theorem listNamespace_eq_ok_iff {r : ResourceKind} {ns t : Option String} :
    listNamespace r ns = .ok t ↔
      (r.isNamespaced = true ∧ Text.nonBlank? ns = t ∧ ∀ n, t = some n → IsLabel n) ∨
        (r.isNamespaced = false ∧ t = none) := by
  unfold listNamespace
  cases r.isNamespaced with
  | false => simp [eq_comm]
  | true =>
    cases Text.nonBlank? ns with
    | none =>
      simp only [if_true, Except.ok.injEq, true_and, Bool.true_eq_false, false_and, or_false]
      constructor
      · rintro rfl
        exact ⟨rfl, fun n h => by cases h⟩
      · exact fun h => h.1
    | some m =>
      simp only [if_true, Checked.map_eq_ok_iff, checkNamespace_eq_ok_iff, true_and, Bool.true_eq_false, false_and,
        or_false]
      constructor
      · rintro ⟨n, ⟨hm, rfl⟩, rfl⟩
        refine ⟨rfl, fun n h => ?_⟩
        cases h
        exact hm
      · rintro ⟨rfl, h⟩
        exact ⟨m, ⟨h m rfl, rfl⟩, rfl⟩

end Address

end ClusterGateway
