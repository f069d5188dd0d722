import ClusterGateway.Text.Blank
import Mathlib.Data.List.DropRight

/-!
# Trimming

What is left of a text when it is trimmed stands in it between blanks, and neither begins nor ends with
one; nothing else does so. So nothing is left exactly if the text was blank all through, and all is left
if nothing in it is blank.
-/

namespace ClusterGateway.Text

theorem trimEnd_eq_nil_iff (cs : List Char) : trimEnd cs = [] ↔ ∀ c ∈ cs, isBlank c = true :=
  List.rdropWhile_eq_nil_iff

theorem forall_trimStart_iff (cs : List Char) :
    (∀ c ∈ trimStart cs, isBlank c = true) ↔ ∀ c ∈ cs, isBlank c = true := by
  constructor
  · intro h c hc
    rw [← List.takeWhile_append_dropWhile (p := isBlank) (l := cs), List.mem_append] at hc
    rcases hc with hc | hc
    · exact List.mem_takeWhile_imp hc
    · exact h c hc
  · intro h c hc
    exact h c (List.dropWhile_subset isBlank hc)

theorem isEmpty_trim (s : String) : (trim s).isEmpty = isBlankText s := by
  rw [Bool.eq_iff_iff, isBlankText, List.all_eq_true, ← forall_trimStart_iff, ← trimEnd_eq_nil_iff,
    String.isEmpty_iff, trim, String.ofList_eq_empty_iff]

theorem nonBlank?_of_not_blank {s : String} (h : isBlankText s = false) :
    nonBlank? (some s) = some (trim s) := by
  rw [nonBlank?, isEmpty_trim, h]
  rfl

theorem nonBlank?_eq_some_iff {s : Option String} {t : String} :
    nonBlank? s = some t ↔ ∃ u, s = some u ∧ trim u = t ∧ t ≠ "" := by
  cases s with
  | none => simp [nonBlank?]
  | some u =>
    simp only [nonBlank?, Option.ite_none_left_eq_some, Option.some.injEq, exists_eq_left']
    constructor
    · rintro ⟨hne, rfl⟩
      exact ⟨rfl, fun he => hne (String.isEmpty_iff.mpr he)⟩
    · rintro ⟨rfl, hne⟩
      exact ⟨fun he => hne (String.isEmpty_iff.mp he), rfl⟩

theorem nonBlank?_eq_none_iff {s : Option String} :
    nonBlank? s = none ↔ ∀ t, s = some t → isBlankText t = true := by
  cases s with
  | none => simp [nonBlank?]
  | some t =>
    simp only [nonBlank?, isEmpty_trim]
    by_cases h : isBlankText t = true <;> simp [h]

/-! ## What is left -/

/-- What is left of `s` without the blanks at its ends: it neither begins nor ends with one. -/
structure IsTrimmed (s t : String) : Prop where
  exists_blanks : ∃ before after, isBlankText before = true ∧ isBlankText after = true ∧ s = before ++ t ++ after
  head_not_blank : ∀ c, t.toList.head? = some c → isBlank c = false
  last_not_blank : ∀ c, t.toList.getLast? = some c → isBlank c = false

section
variable {blanks cs : List Char} (hblanks : ∀ c ∈ blanks, isBlank c = true)
include hblanks

theorem trimStart_blanks_append (h : ∀ c, cs.head? = some c → isBlank c = false) :
    trimStart (blanks ++ cs) = cs := by
  rw [trimStart, List.dropWhile_append_of_pos hblanks]
  cases cs with
  | nil => rfl
  | cons c cs => exact List.dropWhile_cons_of_neg (by simp [h c rfl])

theorem trimEnd_append_blanks (h : ∀ c, cs.getLast? = some c → isBlank c = false) :
    trimEnd (cs ++ blanks) = cs := by
  have hreverse : trimStart (blanks.reverse ++ cs.reverse) = cs.reverse :=
    trimStart_blanks_append (by simpa using hblanks) (by simpa using h)
  rw [trimEnd, List.reverse_append, ← trimStart, hreverse, List.reverse_reverse]

end

theorem isTrimmed_trim (s : String) : IsTrimmed s (trim s) := by
  have hstart : s.toList.takeWhile isBlank ++ trimStart s.toList = s.toList := List.takeWhile_append_dropWhile
  have hend : trimEnd (trimStart s.toList) ++ (trimStart s.toList).rtakeWhile isBlank = trimStart s.toList :=
    List.rdropWhile_append_rtakeWhile
  have htrim : (trim s).toList = trimEnd (trimStart s.toList) := String.toList_ofList
  refine ⟨⟨.ofList (s.toList.takeWhile isBlank), .ofList ((trimStart s.toList).rtakeWhile isBlank), ?_, ?_, ?_⟩,
    fun c hc => ?_, fun c hc => ?_⟩
  · simp [isBlankText]
  · simpa [isBlankText] using fun c hc => List.mem_rtakeWhile_imp hc
  · rw [← String.toList_inj]
    simp only [String.toList_append, String.toList_ofList, htrim]
    rw [List.append_assoc, hend, hstart]
  · rw [htrim] at hc
    -- it is the character at which the dropping from the start had stopped
    have hhead : (trimStart s.toList).head? = some c := by
      rw [← hend, List.head?_append_of_ne_nil _ (by rintro he; simp [he] at hc), hc]
    have hstop := List.head?_dropWhile_not isBlank s.toList
    rw [← trimStart, hhead] at hstop
    exact hstop
  · rw [htrim] at hc
    have hne : trimEnd (trimStart s.toList) ≠ [] := by
      intro he
      simp [he] at hc
    rw [List.getLast?_eq_some_getLast hne, Option.some.injEq] at hc
    subst hc
    exact Bool.eq_false_iff.mpr (List.rdropWhile_last_not isBlank _ hne)

theorem trim_eq_iff {s t : String} : trim s = t ↔ IsTrimmed s t := by
  constructor
  · rintro rfl
    exact isTrimmed_trim s
  · rintro ⟨⟨before, after, hbefore, hafter, rfl⟩, hhead, hlast⟩
    have hbefore : ∀ c ∈ before.toList, isBlank c = true := List.all_eq_true.mp hbefore
    have hafter : ∀ c ∈ after.toList, isBlank c = true := List.all_eq_true.mp hafter
    by_cases hempty : t = ""
    · -- nothing marks where the blanks before end and those after begin
      subst hempty
      have hblank : isBlankText (before ++ "" ++ after) = true := by
        rw [isBlankText, List.all_eq_true]
        simp only [String.toList_append, String.toList_empty, List.append_nil, List.mem_append]
        rintro c (hc | hc)
        · exact hbefore c hc
        · exact hafter c hc
      rwa [← isEmpty_trim, String.isEmpty_iff] at hblank
    · have hne : t.toList ≠ [] := by simpa using hempty
      have hstart : trimStart (before.toList ++ (t.toList ++ after.toList)) = t.toList ++ after.toList := by
        refine trimStart_blanks_append hbefore fun c hc => hhead c ?_
        rwa [List.head?_append_of_ne_nil _ hne] at hc
      rw [trim, String.toList_append, String.toList_append, List.append_assoc, hstart,
        trimEnd_append_blanks hafter hlast, String.ofList_toList]

theorem IsTrimmed.self {s : String} (hhead : ∀ c, s.toList.head? = some c → isBlank c = false)
    (hlast : ∀ c, s.toList.getLast? = some c → isBlank c = false) : IsTrimmed s s :=
  ⟨⟨"", "", rfl, rfl, by simp⟩, hhead, hlast⟩

theorem trim_eq_self {s : String} (h : ∀ c ∈ s.toList, isBlank c = false) : trim s = s := by
  refine trim_eq_iff.mpr (.self (fun c hc => ?_) fun c hc => ?_)
  · exact h c (List.mem_of_head? hc)
  · exact h c (List.mem_of_getLast? hc)

theorem trim_trim (s : String) : trim (trim s) = trim s := by
  have h := isTrimmed_trim s
  exact trim_eq_iff.mpr (.self h.head_not_blank h.last_not_blank)

theorem mem_of_mem_trim {s : String} {c : Char} (h : c ∈ (trim s).toList) : c ∈ s.toList := by
  obtain ⟨before, after, -, -, hs⟩ := (isTrimmed_trim s).exists_blanks
  rw [hs]
  simp [h]

theorem nonBlank?_some_eq_some_iff {s t : String} : nonBlank? (some s) = some t ↔ IsTrimmed s t ∧ t ≠ "" := by
  rw [nonBlank?_eq_some_iff, ← trim_eq_iff]
  simp

theorem nonBlank?_eq_self {s : String} (h : ∀ c ∈ s.toList, isBlank c = false) (hne : s ≠ "") :
    nonBlank? (some s) = some s :=
  nonBlank?_eq_some_iff.mpr ⟨s, rfl, trim_eq_self h, hne⟩

end ClusterGateway.Text
