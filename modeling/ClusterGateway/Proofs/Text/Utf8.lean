import ClusterGateway.Text.Utf8
import Mathlib.Data.UInt

/-!
# Texts in UTF-8

The bytes of a text are read back as this text. The reader knows from the first byte of a character
how many are to come and what the second may be, so there is a case for each such range. Where all bytes
are in ASCII, so are the characters, and there is one byte to each.
-/

namespace ClusterGateway.Text.Utf8

/-! ## Bytes of a text -/

theorem toList_loop (bytes : ByteArray) (i : Nat) (r : List UInt8) :
    ByteArray.toList.loop bytes i r = r.reverse ++ bytes.data.toList.drop i := by
  fun_induction ByteArray.toList.loop bytes i r with
  | case1 i r h ih =>
    have hi : i < bytes.data.toList.length := by simpa using h
    have hget : bytes.get! i = bytes.data.toList[i] := by
      obtain ⟨data⟩ := bytes
      exact getElem!_pos data i (by simpa using hi)
    rw [ih, List.drop_eq_getElem_cons hi, hget]
    simp
  | case2 i r h =>
    have hi : bytes.data.toList.length ≤ i := by simpa using Nat.le_of_not_lt h
    rw [List.drop_eq_nil_of_le hi, List.append_nil]

theorem encode_eq_flatMap (s : String) : encode s = s.toList.flatMap String.utf8EncodeChar := by
  have hbytes : s.toUTF8 = s.toList.utf8Encode := by
    rw [String.toUTF8_eq_toByteArray, ← String.toByteArray_ofList, String.ofList_toList]
  rw [encode, hbytes, List.utf8Encode, ByteArray.toList, toList_loop, List.toList_data_toByteArray]
  rfl

theorem length_encode (s : String) : (encode s).length = s.utf8ByteSize := by
  rw [encode, ByteArray.toList, toList_loop]
  simp

/-! ## ASCII -/

/-- A statement on a character of ASCII holds if it holds of each of the 128. -/
theorem forall_ascii {P : Char → Prop} (h : ∀ n < 0x80, P (Char.ofNat n)) {c : Char} (hc : c.toNat < 0x80) : P c := by
  have hn := h c.toNat hc
  rwa [Char.ofNat_toNat] at hn

theorem utf8EncodeChar_of_ascii {c : Char} (h : c.toNat < 0x80) :
    String.utf8EncodeChar c = [UInt8.ofNat c.toNat] := by
  have hsmall : c.val.toNat ≤ 0x7F := Nat.le_of_lt_succ h
  simp only [String.utf8EncodeChar, if_pos hsmall]
  rfl

theorem le_of_mem_utf8EncodeChar {c : Char} (h : 0x80 ≤ c.toNat) {b : UInt8} (hb : b ∈ String.utf8EncodeChar c) :
    0x80 ≤ b.toNat := by
  have hlarge : ¬ c.val.toNat ≤ 0x7F := Nat.not_le_of_lt h
  have hvalid : c.val.toNat < 0xD800 ∨ 0xDFFF < c.val.toNat ∧ c.val.toNat < 0x110000 := c.valid
  simp only [String.utf8EncodeChar, if_neg hlarge] at hb
  generalize c.val.toNat = v at hb hlarge hvalid
  split at hb
  · simp only [List.mem_cons, List.not_mem_nil, or_false] at hb
    rcases hb with rfl | rfl <;> rw [UInt8.toNat_ofNat'] <;> omega
  split at hb
  · simp only [List.mem_cons, List.not_mem_nil, or_false] at hb
    rcases hb with rfl | rfl | rfl <;> rw [UInt8.toNat_ofNat'] <;> omega
  · simp only [List.mem_cons, List.not_mem_nil, or_false] at hb
    rcases hb with rfl | rfl | rfl | rfl <;> rw [UInt8.toNat_ofNat'] <;> omega

theorem ascii_of_encode {s : String} (h : ∀ b ∈ encode s, b.toNat < 0x80) : ∀ c ∈ s.toList, c.toNat < 0x80 := by
  intro c hc
  by_contra hlarge
  obtain ⟨b, hb⟩ := List.exists_mem_of_ne_nil _ (String.utf8EncodeChar_ne_nil (c := c))
  have hmem : b ∈ encode s := by
    rw [encode_eq_flatMap, List.mem_flatMap]
    exact ⟨c, hc, hb⟩
  exact absurd (h b hmem) (Nat.not_lt_of_le (le_of_mem_utf8EncodeChar (Nat.le_of_not_lt hlarge) hb))

section
variable {s : String} (h : ∀ c ∈ s.toList, c.toNat < 0x80)
include h

theorem encode_of_ascii : encode s = s.toList.map fun c => UInt8.ofNat c.toNat := by
  rw [encode_eq_flatMap, List.map_eq_flatMap]
  exact List.flatMap_congr fun c hc => utf8EncodeChar_of_ascii (h c hc)

theorem utf8ByteSize_of_ascii : s.utf8ByteSize = s.length := by
  rw [← length_encode, encode_of_ascii h, List.length_map, String.length_toList]

end

/-! ## Reading a character -/

namespace Reader

variable (ps : List Piece) {b : Nat}

theorem start_two (h : 0xC2 ≤ b) (h' : b ≤ 0xDF) :
    start ps b = ⟨ps, some ⟨1, 1, b - 0xC0, 0x80, 0xBF⟩⟩ := by
  rw [start, if_neg (by omega), if_pos ⟨h, h'⟩]

theorem start_three (h : 0xE0 ≤ b) (h' : b ≤ 0xEF) :
    start ps b =
      ⟨ps, some ⟨1, 2, b - 0xE0, if b = 0xE0 then 0xA0 else 0x80, if b = 0xED then 0x9F else 0xBF⟩⟩ := by
  rw [start, if_neg (by omega), if_neg (by omega)]
  by_cases h₀ : b = 0xE0
  · subst h₀
    rfl
  by_cases h₁ : b = 0xED
  · subst h₁
    rfl
  · rw [if_neg h₀, if_neg h₁, if_pos (by omega), if_neg h₀, if_neg h₁]

theorem start_four (h : 0xF0 ≤ b) (h' : b ≤ 0xF4) :
    start ps b =
      ⟨ps, some ⟨1, 3, b - 0xF0, if b = 0xF0 then 0x90 else 0x80, if b = 0xF4 then 0x8F else 0xBF⟩⟩ := by
  rw [start, if_neg (by omega), if_neg (by omega), if_neg (by omega), if_neg (by omega), if_neg (by omega)]
  by_cases h₀ : b = 0xF0
  · subst h₀
    rfl
  by_cases h₁ : b = 0xF4
  · subst h₁
    rfl
  · rw [if_neg h₀, if_neg h₁, if_pos (by omega), if_neg h₀, if_neg h₁]

variable {seen missing code low high : Nat}

theorem step_more (hlow : low ≤ b) (hhigh : b ≤ high) (hb : b < 256) :
    step ⟨ps, some ⟨seen, missing + 2, code, low, high⟩⟩ (UInt8.ofNat b) =
      ⟨ps, some ⟨seen + 1, missing + 1, code * 64 + (b - 0x80), 0x80, 0xBF⟩⟩ := by
  have hn : (UInt8.ofNat b).toNat = b := UInt8.toNat_ofNat_of_lt' hb
  have hmore : ¬ missing + 2 ≤ 1 := by omega
  simp only [step, hn, if_pos (And.intro hlow hhigh), if_neg hmore, Nat.add_one_sub_one]

theorem step_last (hlow : low ≤ b) (hhigh : b ≤ high) (hb : b < 256) :
    step ⟨ps, some ⟨seen, 1, code, low, high⟩⟩ (UInt8.ofNat b) =
      ⟨.char (Char.ofNat (code * 64 + (b - 0x80))) :: ps, none⟩ := by
  have hn : (UInt8.ofNat b).toNat = b := UInt8.toNat_ofNat_of_lt' hb
  simp only [step, hn, if_pos (And.intro hlow hhigh), Nat.le_refl, if_true]

theorem step_first (hb : b < 256) : step ⟨ps, none⟩ (UInt8.ofNat b) = start ps b := by
  have hn : (UInt8.ofNat b).toNat = b := UInt8.toNat_ofNat_of_lt' hb
  simp only [step, hn]

theorem foldl_step_char (c : Char) :
    (String.utf8EncodeChar c).foldl step ⟨ps, none⟩ = ⟨.char c :: ps, none⟩ := by
  have hc : Char.ofNat c.val.toNat = c := Char.ofNat_toNat c
  -- no character is a surrogate
  have hvalid : c.val.toNat < 0xD800 ∨ 0xDFFF < c.val.toNat ∧ c.val.toNat < 0x110000 := c.valid
  unfold String.utf8EncodeChar
  generalize c.val.toNat = v at hvalid hc
  simp only
  split
  · rw [List.foldl_cons, step_first ps (by omega), start, if_pos (by omega), hc]
    rfl
  split
  · have hcode : (v / 64 % 0x20 + 0xC0 - 0xC0) * 64 + (v % 0x40 + 0x80 - 0x80) = v := by omega
    rw [List.foldl_cons, step_first ps (by omega), start_two ps (by omega) (by omega), List.foldl_cons,
      step_last ps (by omega) (by omega) (by omega), hcode, hc, List.foldl_nil]
  split
  · have hcode : ((v / 4096 % 0x10 + 0xE0 - 0xE0) * 64 + (v / 64 % 0x40 + 0x80 - 0x80)) * 64 +
        (v % 0x40 + 0x80 - 0x80) = v := by omega
    rw [List.foldl_cons, step_first ps (by omega), start_three ps (by omega) (by omega), List.foldl_cons,
      step_more ps (by split <;> omega) (by split <;> omega) (by omega), List.foldl_cons,
      step_last ps (by omega) (by omega) (by omega), hcode, hc, List.foldl_nil]
  · have hcode : (((v / 262144 % 0x08 + 0xF0 - 0xF0) * 64 + (v / 4096 % 0x40 + 0x80 - 0x80)) * 64 +
        (v / 64 % 0x40 + 0x80 - 0x80)) * 64 + (v % 0x40 + 0x80 - 0x80) = v := by omega
    rw [List.foldl_cons, step_first ps (by omega), start_four ps (by omega) (by omega), List.foldl_cons,
      step_more ps (by split <;> omega) (by split <;> omega) (by omega), List.foldl_cons,
      step_more ps (by omega) (by omega) (by omega), List.foldl_cons,
      step_last ps (by omega) (by omega) (by omega), hcode, hc, List.foldl_nil]

theorem foldl_step_flatMap (cs : List Char) :
    (cs.flatMap String.utf8EncodeChar).foldl step ⟨ps, none⟩ = ⟨(cs.map Piece.char).reverse ++ ps, none⟩ := by
  induction cs generalizing ps with
  | nil => rfl
  | cons c cs ih =>
    rw [List.flatMap_cons, List.foldl_append, foldl_step_char, ih, List.map_cons, List.reverse_cons,
      List.append_assoc, List.singleton_append]

end Reader

/-! ## Reading a text -/

theorem pieces_encode (s : String) : pieces (encode s) = s.toList.map Piece.char := by
  rw [pieces, encode_eq_flatMap, Reader.empty, Reader.foldl_step_flatMap, List.append_nil, Reader.finish,
    List.reverse_reverse]

theorem firstFlaw?_map_char (cs : List Char) : firstFlaw? (cs.map Piece.char) = none := by
  have go : ∀ index, firstFlaw?.go index (cs.map Piece.char) = none := by
    induction cs with
    | nil => exact fun _ => rfl
    | cons c cs ih => exact fun index => ih (index + c.utf8Size)
  exact go 0

theorem decode?_encode (s : String) : decode? (encode s) = some s := by
  have hback : (s.toList.map Piece.char).map Piece.replacement = s.toList := by
    rw [List.map_map]
    exact List.map_id _
  rw [decode?, decode, pieces_encode, firstFlaw?_map_char, hback, String.ofList_toList]
  rfl

theorem encode_injective {s t : String} (h : encode s = encode t) : s = t := by
  have hs := decode?_encode s
  rw [h, decode?_encode] at hs
  exact (Option.some.inj hs).symm

end ClusterGateway.Text.Utf8
