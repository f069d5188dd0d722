import ClusterGateway.Proofs.Operation.Address
import ClusterGateway.Proofs.Text.Utf8

/-!
# Labels

Which texts are accepted as namespaces, counted in characters. A label holds ASCII only, so there is one
byte to each character, and its bound and its ends can be checked on either. A character of several bytes
fails both ways, since none of its bytes is in ASCII.
-/

namespace ClusterGateway.Address

/-- One to sixty-three lower-case letters, digits and dashes, with no dash at either end. -/
structure IsDnsLabel (s : String) : Prop where
  length_pos : 1 ≤ s.length
  length_le : s.length ≤ 63
  chars : ∀ c ∈ s.toList, ('a' ≤ c ∧ c ≤ 'z') ∨ ('0' ≤ c ∧ c ≤ '9') ∨ c = '-'
  head_ne_dash : s.toList.head? ≠ some '-'
  last_ne_dash : s.toList.getLast? ≠ some '-'

theorem ascii_of_chars {s : String} (h : ∀ c ∈ s.toList, ('a' ≤ c ∧ c ≤ 'z') ∨ ('0' ≤ c ∧ c ≤ '9') ∨ c = '-') :
    ∀ c ∈ s.toList, c.toNat < 0x80 := by
  intro c hc
  have hlast := (toNat_of_isLabelChar (h c hc)).2
  omega

/-- No character of a label takes more than one byte, so its bytes are as many as its characters. -/
theorem isLabel_iff_isDnsLabel (s : String) : IsLabel s ↔ IsDnsLabel s := by
  constructor
  · intro h
    have hsize := Text.Utf8.utf8ByteSize_of_ascii (ascii_of_chars h.chars)
    exact ⟨hsize ▸ h.size_pos, hsize ▸ h.size_le, h.chars, h.head_ne_dash, h.last_ne_dash⟩
  · intro h
    have hsize := Text.Utf8.utf8ByteSize_of_ascii (ascii_of_chars h.chars)
    exact ⟨hsize ▸ h.length_pos, hsize ▸ h.length_le, h.chars, h.head_ne_dash, h.last_ne_dash⟩

/-! ## Bytes -/

def isLabelEdgeByte (b : UInt8) : Bool :=
  ('a'.toUInt8 ≤ b && b ≤ 'z'.toUInt8) || ('0'.toUInt8 ≤ b && b ≤ '9'.toUInt8)

def isLabelByte (b : UInt8) : Bool := isLabelEdgeByte b || b == '-'.toUInt8

def isLabelBytes (bytes : List UInt8) : Bool :=
  bytes.length ≤ 63 && bytes.head?.any isLabelEdgeByte && bytes.getLast?.any isLabelEdgeByte &&
    bytes.all isLabelByte

theorem isLabelEdgeByte_of_ascii {c : Char} (h : c.toNat < 0x80) :
    isLabelEdgeByte (UInt8.ofNat c.toNat) = isLabelEdge c := by
  refine Text.Utf8.forall_ascii (P := fun c => isLabelEdgeByte (UInt8.ofNat c.toNat) = isLabelEdge c) ?_ h
  decide +kernel

theorem isLabelByte_of_ascii {c : Char} (h : c.toNat < 0x80) :
    isLabelByte (UInt8.ofNat c.toNat) = isLabelChar c := by
  refine Text.Utf8.forall_ascii (P := fun c => isLabelByte (UInt8.ofNat c.toNat) = isLabelChar c) ?_ h
  decide +kernel

theorem ascii_of_isLabelByte {b : UInt8} (h : isLabelByte b = true) : b.toNat < 0x80 := by
  simp only [isLabelByte, isLabelEdgeByte, Bool.or_eq_true, Bool.and_eq_true, decide_eq_true_eq, beq_iff_eq,
    UInt8.le_iff_toNat_le] at h
  rcases h with (h | h) | rfl
  · exact Nat.lt_of_le_of_lt h.2 (by decide)
  · exact Nat.lt_of_le_of_lt h.2 (by decide)
  · decide

theorem ascii_of_isLabelBytes {s : String} (h : isLabelBytes (Text.Utf8.encode s) = true) :
    ∀ c ∈ s.toList, c.toNat < 0x80 := by
  simp only [isLabelBytes, Bool.and_eq_true, List.all_eq_true] at h
  exact Text.Utf8.ascii_of_encode fun b hb => ascii_of_isLabelByte (h.2 b hb)

section
variable {s : String} (h : ∀ c ∈ s.toList, c.toNat < 0x80)
include h

theorem any_isLabelEdgeByte {o : Option Char} (ho : ∀ c, o = some c → c ∈ s.toList) :
    (o.map fun c => UInt8.ofNat c.toNat).any isLabelEdgeByte = o.any isLabelEdge := by
  cases o with
  | none => rfl
  | some c => exact isLabelEdgeByte_of_ascii (h c (ho c rfl))

theorem all_isLabelByte :
    (s.toList.map fun c => UInt8.ofNat c.toNat).all isLabelByte = s.toList.all isLabelChar := by
  rw [List.all_map, Bool.eq_iff_iff, List.all_eq_true, List.all_eq_true]
  refine forall₂_congr fun c hc => ?_
  rw [Function.comp_apply, isLabelByte_of_ascii (h c hc)]

theorem isLabelBytes_encode_of_ascii : isLabelBytes (Text.Utf8.encode s) = isNamespace s := by
  have hhead := any_isLabelEdgeByte h fun _ => List.mem_of_head?
  have hlast := any_isLabelEdgeByte h fun _ => List.mem_of_getLast?
  rw [isLabelBytes, Text.Utf8.length_encode, Text.Utf8.encode_of_ascii h, List.head?_map, List.getLast?_map, hhead,
    hlast, all_isLabelByte h, isNamespace]

end

theorem isLabelBytes_encode (s : String) : isLabelBytes (Text.Utf8.encode s) = isNamespace s := by
  rw [Bool.eq_iff_iff]
  constructor
  · intro h
    rwa [isLabelBytes_encode_of_ascii (ascii_of_isLabelBytes h)] at h
  · intro h
    have hlabel := (isNamespace_iff s).mp h
    rwa [isLabelBytes_encode_of_ascii (ascii_of_chars hlabel.chars)]

/-- **Namespaces are DNS-1123 labels.** Exactly the labels pass the check, and they pass as they are; the
same check on bytes is passed by the bytes of a label only. A request for a kind with namespaces may have
blanks around the label and nothing else, and what it comes out with is the label. -/
theorem namespaces_are_labels (s : String) :
    (∀ t, checkNamespace s = .ok t ↔ IsDnsLabel s ∧ t = s) ∧
      (isLabelBytes (Text.Utf8.encode s) = true ↔ IsDnsLabel s) ∧
      ∀ r : ResourceKind, r.isNamespaced = true → ∀ ns,
        targetNamespace r (some s) = .ok ns ↔ ∃ t, Text.IsTrimmed s t ∧ IsDnsLabel t ∧ ns = some t := by
  refine ⟨fun t => ?_, ?_, fun r hr ns => ?_⟩
  · rw [checkNamespace_eq_ok_iff, isLabel_iff_isDnsLabel, eq_comm]
  · rw [isLabelBytes_encode, isNamespace_iff, isLabel_iff_isDnsLabel]
  · rw [targetNamespace_eq_ok_iff]
    constructor
    · rintro (⟨-, t, rfl, ht, hlabel⟩ | ⟨hr', -⟩)
      · obtain ⟨htrimmed, -⟩ := Text.nonBlank?_some_eq_some_iff.mp ht
        exact ⟨t, htrimmed, (isLabel_iff_isDnsLabel t).mp hlabel, rfl⟩
      · rw [hr] at hr'
        cases hr'
    · rintro ⟨t, htrimmed, hlabel, rfl⟩
      have hne : t ≠ "" := by
        rintro rfl
        exact absurd hlabel.length_pos (by decide)
      exact .inl ⟨hr, t, rfl, Text.nonBlank?_some_eq_some_iff.mpr ⟨htrimmed, hne⟩, (isLabel_iff_isDnsLabel t).mpr hlabel⟩

theorem namespaces_are_labels_of_longest :
    let pod : ResourceKind := ⟨"pod", [], ⟨"", "v1", "Pod", "pods"⟩, .namespaced, .uniform .reader, "", ""⟩
    let longest := String.ofList ('a' :: List.replicate 61 '-' ++ ['0'])
    let s := "\u3000" ++ longest ++ "\n"
    pod.isNamespaced = true ∧ IsDnsLabel longest ∧ Text.IsTrimmed s longest ∧
      checkNamespace longest = .ok longest ∧ isLabelBytes (Text.Utf8.encode longest) = true ∧
      targetNamespace pod (some s) = .ok (some longest) ∧ ∀ t, checkNamespace "é" ≠ .ok t := by
  intro pod longest s
  have hlist : longest.toList = 'a' :: List.replicate 61 '-' ++ ['0'] := String.toList_ofList
  have hlength : longest.length = 63 := by
    rw [← String.length_toList, hlist]
    rfl
  have hhead : longest.toList.head? = some 'a' := by rw [hlist]; rfl
  have hlast : longest.toList.getLast? = some '0' := by rw [hlist, List.getLast?_concat]
  have hchars : ∀ c ∈ longest.toList, c = 'a' ∨ c = '-' ∨ c = '0' := by simp [hlist]
  have hlabel : IsDnsLabel longest := by
    refine ⟨by omega, by omega, fun c hc => ?_, by simp [hhead], by simp [hlast]⟩
    rcases hchars c hc with rfl | rfl | rfl <;> decide
  have htrimmed : Text.IsTrimmed s longest := by
    refine ⟨⟨"\u3000", "\n", by decide, by decide, rfl⟩, fun c hc => ?_, fun c hc => ?_⟩
    · obtain rfl := Option.some.inj (hhead.symm.trans hc)
      decide
    · obtain rfl := Option.some.inj (hlast.symm.trans hc)
      decide
  obtain ⟨hcheck, hbytes, -⟩ := namespaces_are_labels longest
  obtain ⟨-, -, htarget⟩ := namespaces_are_labels s
  refine ⟨rfl, hlabel, htrimmed, (hcheck longest).mpr ⟨hlabel, rfl⟩, hbytes.mpr hlabel,
    (htarget pod rfl _).mpr ⟨longest, htrimmed, hlabel, rfl⟩, fun t ht => ?_⟩
  obtain ⟨hlabel, -⟩ := ((namespaces_are_labels "é").1 t).mp ht
  exact absurd (hlabel.chars 'é' (by decide)) (by decide)

end ClusterGateway.Address
