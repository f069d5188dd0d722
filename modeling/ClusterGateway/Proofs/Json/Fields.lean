import ClusterGateway.Json.Basic
import Mathlib

/-!
# Fields set and removed

Setting fields of different names commutes, of two settings of one name the last stands, and a field
that is gone cannot go twice. Fields in order stay so when one is set or removed, and a list of fields is put
in order by setting one after the other.
-/

namespace ClusterGateway.Json.Fields

variable {β : Type} {name other : String}

theorem insert_cons_self (value old : β) (rest : List (String × β)) :
    insert name value ((name, old) :: rest) = (name, value) :: rest := by
  rw [insert, if_pos rfl]

theorem insert_cons_of_lt (h : name < other) (value old : β) (rest : List (String × β)) :
    insert name value ((other, old) :: rest) = (name, value) :: (other, old) :: rest := by
  rw [insert, if_neg h.ne', if_pos h]

theorem insert_cons_of_gt (h : other < name) (value old : β) (rest : List (String × β)) :
    insert name value ((other, old) :: rest) = (other, old) :: insert name value rest := by
  rw [insert, if_neg h.ne, if_neg h.not_gt]

theorem insert_insert (name : String) (value old : β) (fields : List (String × β)) :
    insert name value (insert name old fields) = insert name value fields := by
  induction fields with
  | nil => exact insert_cons_self value old []
  | cons field rest ih =>
    obtain ⟨k, v⟩ := field
    rcases lt_trichotomy name k with h | rfl | h
    · rw [insert_cons_of_lt h, insert_cons_self, insert_cons_of_lt h]
    · simp only [insert_cons_self]
    · simp only [insert_cons_of_gt h, ih]

theorem insert_comm_of_lt (h : name < other) (a b : β) (fields : List (String × β)) :
    insert name a (insert other b fields) = insert other b (insert name a fields) := by
  induction fields with
  | nil => exact (insert_cons_of_lt h a b []).trans (insert_cons_of_gt h b a []).symm
  | cons field rest ih =>
    obtain ⟨k, v⟩ := field
    rcases lt_trichotomy name k with hk | rfl | hk
    · rw [insert_cons_of_lt hk, insert_cons_of_gt h]
      -- the smaller name goes first, and only the place of the other one is open
      rcases lt_trichotomy other k with ho | rfl | ho
      · rw [insert_cons_of_lt ho, insert_cons_of_lt h]
      · rw [insert_cons_self, insert_cons_of_lt h]
      · rw [insert_cons_of_gt ho, insert_cons_of_lt hk]
    · rw [insert_cons_of_gt h, insert_cons_self, insert_cons_self, insert_cons_of_gt h]
    · rw [insert_cons_of_gt hk, insert_cons_of_gt (hk.trans h), insert_cons_of_gt (hk.trans h), insert_cons_of_gt hk,
        ih]

theorem insert_comm (h : name ≠ other) (a b : β) (fields : List (String × β)) :
    insert name a (insert other b fields) = insert other b (insert name a fields) := by
  rcases lt_or_gt_of_ne h with hlt | hgt
  · exact insert_comm_of_lt hlt a b fields
  · exact (insert_comm_of_lt hgt b a fields).symm

theorem erase_erase (name : String) (fields : List (String × β)) :
    erase name (erase name fields) = erase name fields := by
  induction fields with
  | nil => rfl
  | cons field rest ih =>
    obtain ⟨k, v⟩ := field
    by_cases hk : k = name
    · simp only [erase, if_pos hk, ih]
    · simp only [erase, if_neg hk, ih]

section
variable {fields fields' : List (String × β)} (h : get? other fields = get? other fields')
include h

theorem get?_insert_congr (name : String) (value : β) :
    get? other (insert name value fields) = get? other (insert name value fields') := by
  by_cases hname : other = name
  · subst hname
    rw [get?_insert_self, get?_insert_self]
  · rw [get?_insert_of_ne hname, get?_insert_of_ne hname, h]

theorem get?_erase_congr (name : String) : get? other (erase name fields) = get? other (erase name fields') := by
  by_cases hname : other = name
  · subst hname
    rw [get?_erase_self, get?_erase_self]
  · rw [get?_erase_of_ne hname, get?_erase_of_ne hname, h]

end

theorem ofList_append_singleton (fields : List (String × β)) (name : String) (value : β) :
    ofList (fields ++ [(name, value)]) = insert name value (ofList fields) := by
  simp only [ofList, List.foldl_append, List.foldl_cons, List.foldl_nil]

theorem get?_ofList (name : String) (fields : List (String × β)) :
    get? name (ofList fields) = get? name fields.reverse := by
  induction fields using List.reverseRecOn with
  | nil => rfl
  | append_singleton fields field ih =>
    obtain ⟨k, v⟩ := field
    rw [ofList_append_singleton, List.reverse_append, List.reverse_singleton, List.singleton_append, get?]
    by_cases hk : k = name
    · subst hk
      rw [if_pos rfl, get?_insert_self]
    · rw [if_neg hk, get?_insert_of_ne (Ne.symm hk), ih]

/-! ## Fields in order -/

section
variable {field : String × β} {value : β} {fields : List (String × β)}

theorem mem_of_get? (h : get? name fields = some value) : (name, value) ∈ fields := by
  induction fields with
  | nil => cases h
  | cons first rest ih =>
    obtain ⟨k, v⟩ := first
    rw [get?] at h
    split at h
    next hk =>
      obtain rfl := Option.some.inj h
      exact hk ▸ List.mem_cons_self
    · exact List.mem_cons_of_mem _ (ih h)

theorem mem_insert (h : field ∈ insert name value fields) : field = (name, value) ∨ field ∈ fields := by
  induction fields with
  | nil => exact .inl (List.mem_singleton.mp h)
  | cons first rest ih =>
    obtain ⟨k, v⟩ := first
    rcases lt_trichotomy name k with hk | rfl | hk
    · rw [insert_cons_of_lt hk] at h
      exact List.mem_cons.mp h
    · rw [insert_cons_self] at h
      exact (List.mem_cons.mp h).imp_right (List.mem_cons_of_mem _)
    · rw [insert_cons_of_gt hk] at h
      rcases List.mem_cons.mp h with rfl | h
      · exact .inr List.mem_cons_self
      · exact (ih h).imp_right (List.mem_cons_of_mem _)

theorem erase_sublist (name : String) (fields : List (String × β)) : (erase name fields).Sublist fields := by
  induction fields with
  | nil => exact .slnil
  | cons field rest ih =>
    obtain ⟨k, v⟩ := field
    by_cases hk : k = name
    · simp only [erase, if_pos hk, ih.cons]
    · simp only [erase, if_neg hk, ih.cons_cons]

theorem sorted_insert (h : Sorted fields) (name : String) (value : β) : Sorted (insert name value fields) := by
  induction fields with
  | nil => exact List.pairwise_singleton _ _
  | cons first rest ih =>
    obtain ⟨k, v⟩ := first
    obtain ⟨hfirst, hrest⟩ := List.pairwise_cons.mp h
    rcases lt_trichotomy name k with hk | rfl | hk
    · rw [insert_cons_of_lt hk]
      refine List.pairwise_cons.mpr ⟨fun field hmem => ?_, h⟩
      rcases List.mem_cons.mp hmem with rfl | hmem
      · exact hk
      · exact hk.trans (hfirst field hmem)
    · rw [insert_cons_self]
      exact List.pairwise_cons.mpr ⟨hfirst, hrest⟩
    · rw [insert_cons_of_gt hk]
      refine List.pairwise_cons.mpr ⟨fun field hmem => ?_, ih hrest⟩
      rcases mem_insert hmem with rfl | hmem
      · exact hk
      · exact hfirst field hmem

theorem sorted_erase (h : Sorted fields) (name : String) : Sorted (erase name fields) :=
  h.sublist (erase_sublist name fields)

theorem mem_ofList (h : field ∈ ofList fields) : field ∈ fields := by
  induction fields using List.reverseRecOn with
  | nil => exact h
  | append_singleton fields last ih =>
    rw [ofList_append_singleton] at h
    rcases mem_insert h with rfl | h
    · exact List.mem_append_right _ List.mem_cons_self
    · exact List.mem_append_left _ (ih h)

theorem sorted_ofList (fields : List (String × β)) : Sorted (ofList fields) := by
  induction fields using List.reverseRecOn with
  | nil => exact List.Pairwise.nil
  | append_singleton fields last ih =>
    rw [ofList_append_singleton]
    exact sorted_insert ih _ _

theorem insert_of_forall_lt (h : ∀ field ∈ fields, field.1 < name) (value : β) :
    insert name value fields = fields ++ [(name, value)] := by
  induction fields with
  | nil => rfl
  | cons first rest ih =>
    obtain ⟨hfirst, hrest⟩ := List.forall_mem_cons.mp h
    rw [insert_cons_of_gt hfirst, ih hrest, List.cons_append]

theorem ofList_of_sorted (h : Sorted fields) : ofList fields = fields := by
  induction fields using List.reverseRecOn with
  | nil => rfl
  | append_singleton fields last ih =>
    obtain ⟨hfields, -, hlast⟩ := List.pairwise_append.mp h
    rw [ofList_append_singleton, ih hfields]
    exact insert_of_forall_lt (fun field hmem => hlast field hmem last List.mem_cons_self) _

end

end ClusterGateway.Json.Fields
