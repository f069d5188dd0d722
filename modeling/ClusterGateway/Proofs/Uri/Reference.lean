import ClusterGateway.Uri.Target
import Mathlib.Data.List.DropRight

/-!
# Addresses taken apart

An address is split at its first number sign, and what is before that at its first question mark.
Its path ends at the first of these marks, so what is appended to a path stays in it as far as it
holds none of them.
-/

namespace ClusterGateway.Uri

/-! ## Splitting -/

theorem splitFirst_fst (c : Char) (s : List Char) : (splitFirst c s).1 = s.takeWhile (· ≠ c) := by
  have hs := List.takeWhile_append_dropWhile (p := (· ≠ c)) (l := s)
  unfold splitFirst
  split
  · next h => rwa [h, List.append_nil, eq_comm] at hs
  · rfl

theorem splitFirst_join (c : Char) (s : List Char) :
    (splitFirst c s).1 ++ (splitFirst c s).2.elim [] (c :: ·) = s := by
  have hs := List.takeWhile_append_dropWhile (p := (· ≠ c)) (l := s)
  unfold splitFirst
  split
  · exact List.append_nil s
  · next d rest h =>
    obtain rfl : d = c := by
      have hd := List.head?_dropWhile_not (· ≠ c) s
      rw [h] at hd
      simpa using hd
    rwa [h] at hs

theorem forall_ne_of_notMem {c : Char} {s : List Char} (h : c ∉ s) : ∀ d ∈ s, decide (d ≠ c) = true :=
  fun _ hd => decide_eq_true fun he => h (he ▸ hd)

theorem splitFirst_of_notMem {c : Char} {s : List Char} (h : c ∉ s) : splitFirst c s = (s, none) := by
  have hnil : s.dropWhile (· ≠ c) = [] := by
    rw [List.dropWhile_eq_nil_iff]
    exact forall_ne_of_notMem h
  rw [splitFirst, hnil]

theorem splitFirst_concat {c : Char} {s : List Char} (h : c ∉ s) : splitFirst c (s ++ [c]) = (s, some []) := by
  have hdrop : (s ++ [c]).dropWhile (· ≠ c) = [c] := by
    rw [List.dropWhile_append_of_pos (forall_ne_of_notMem h)]
    simp
  have htake : (s ++ [c]).takeWhile (· ≠ c) = s := by
    rw [List.takeWhile_append_of_pos (forall_ne_of_notMem h)]
    simp
  rw [splitFirst, hdrop, htake]

theorem Target.join_of_ofPath {s : List Char} {t : Target} (h : ofPath s = .ok t) :
    t.path ++ t.query.elim [] ('?' :: ·) = s.takeWhile (· ≠ '#') := by
  simp only [ofPath] at h
  split at h
  · obtain rfl := Except.ok.inj h
    rw [splitFirst_join, splitFirst_fst]
  · cases h

/-! ## Marks -/

def endsPath (c : Char) : Bool := c == '?' || c == '#'

def Unmarked (s : List Char) : Prop := ∀ c ∈ s, endsPath c = false

instance (s : List Char) : Decidable (Unmarked s) :=
  decidable_of_iff (s.all (!endsPath ·) = true) (by simp [Unmarked])

theorem Unmarked.notMem {s : List Char} (h : Unmarked s) {c : Char} (hc : endsPath c = true) : c ∉ s := by
  intro hmem
  rw [h c hmem] at hc
  cases hc

@[simp] theorem unmarked_append {s t : List Char} : Unmarked (s ++ t) ↔ Unmarked s ∧ Unmarked t :=
  List.forall_mem_append

@[simp] theorem unmarked_cons {c : Char} {s : List Char} : Unmarked (c :: s) ↔ endsPath c = false ∧ Unmarked s :=
  List.forall_mem_cons

theorem takeWhile_eq_self_iff_unmarked {s : List Char} : s.takeWhile (!endsPath ·) = s ↔ Unmarked s := by
  simp [Unmarked, List.takeWhile_eq_self_iff]

/-- An address as a reader takes it apart, before anything in it is looked at. -/
structure Reference where
  path : List Char
  query : Option (List Char)
  fragment : Option (List Char)
  deriving DecidableEq, Repr

namespace Reference

def ofText (s : List Char) : Reference :=
  let (s, fragment) := splitFirst '#' s
  let (path, query) := splitFirst '?' s
  ⟨path, query, fragment⟩

def segment (r : Reference) : List Char := r.path.rtakeWhile (· ≠ '/')

theorem path_ofText_eq (s : List Char) : (ofText s).path = (s.takeWhile (· ≠ '#')).takeWhile (· ≠ '?') := by
  show (splitFirst '?' (splitFirst '#' s).1).1 = _
  rw [splitFirst_fst, splitFirst_fst]

theorem path_ofText (s : List Char) : (ofText s).path = s.takeWhile (!endsPath ·) := by
  rw [path_ofText_eq, List.takeWhile_takeWhile]
  congr 1
  funext c
  rw [Bool.eq_iff_iff]
  simp [endsPath]

theorem path_ofText_takeWhile (s : List Char) : (ofText (s.takeWhile (· ≠ '#'))).path = (ofText s).path := by
  rw [path_ofText_eq, path_ofText_eq, List.takeWhile_idem]

theorem ofText_of_unmarked {s : List Char} (h : Unmarked s) : ofText s = ⟨s, none, none⟩ := by
  simp only [ofText, splitFirst_of_notMem (h.notMem (c := '#') rfl), splitFirst_of_notMem (h.notMem (c := '?') rfl)]

theorem ofText_of_empty_query {s : List Char} (h : Unmarked s) : ofText (s ++ ['?']) = ⟨s, some [], none⟩ := by
  have hhash : '#' ∉ s ++ ['?'] := by
    rw [List.mem_append, not_or]
    exact ⟨h.notMem rfl, by decide⟩
  simp only [ofText, splitFirst_of_notMem hhash, splitFirst_concat (h.notMem (c := '?') rfl)]

/-! ## What is appended to a path -/

theorem segment_of_path {r : Reference} {base name : List Char} (h : r.path = base ++ '/' :: name)
    (hname : '/' ∉ name) : r.segment = name := by
  have hrev : ∀ c ∈ name.reverse, decide (c ≠ '/') = true :=
    forall_ne_of_notMem fun hmem => hname (List.mem_reverse.mp hmem)
  rw [segment, h, List.rtakeWhile, List.reverse_append, List.reverse_cons, List.append_assoc,
    List.takeWhile_append_of_pos hrev]
  simp

variable {base : List Char} (hbase : Unmarked base)
include hbase

theorem path_named (name : List Char) :
    (ofText (base ++ '/' :: name)).path = base ++ '/' :: name.takeWhile (!endsPath ·) := by
  have hb : ∀ c ∈ base, (!endsPath c) = true := fun c hc => by rw [hbase c hc]; rfl
  rw [path_ofText, List.takeWhile_append_of_pos hb, List.takeWhile_cons_of_pos rfl]

theorem segment_named {name : List Char} (hname : '/' ∉ name) :
    (ofText (base ++ '/' :: name)).segment = name.takeWhile (!endsPath ·) :=
  segment_of_path (path_named hbase name) fun h => hname (List.takeWhile_subset _ h)

theorem whole_named_iff {name : List Char} (hname : '/' ∉ name) :
    (ofText (base ++ '/' :: name) = ⟨base ++ '/' :: name, none, none⟩ ∧
      (ofText (base ++ '/' :: name)).segment = name) ↔ Unmarked name := by
  rw [segment_named hbase hname, takeWhile_eq_self_iff_unmarked]
  refine ⟨And.right, fun h => ⟨ofText_of_unmarked ?_, h⟩⟩
  simp [hbase, h, endsPath]

end Reference

end ClusterGateway.Uri
