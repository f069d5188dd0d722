import ClusterGateway.Token.Base64Url

/-!
# Bytes in base64 for URLs

What is written is read back, whatever number of bytes is left over at the end, so no two lists of
bytes are written alike. A text that can be read holds characters of the alphabet only.
-/

namespace ClusterGateway.Base64Url

theorem value?_getD_alphabet : ∀ k < 64, value? (alphabet.getD k 'A') = some k := by
  decide +kernel

@[simp] theorem value?_char (n : Nat) : value? (char n) = some (n % 64) :=
  value?_getD_alphabet _ (Nat.mod_lt n (by decide))

theorem byte_eq {n : Nat} {b : UInt8} (h : n % 256 = b.toNat) : byte n = b := by
  rw [← UInt8.toNat_inj, ← h]
  exact UInt8.toNat_ofNat'

theorem decode?_encode (bytes : List UInt8) : decode? (encode bytes) = some bytes := by
  fun_induction encode bytes with
  | case1 a b c rest n ih =>
    have ha := a.toNat_lt
    have hb := b.toNat_lt
    have hc := c.toNat_lt
    have hn : n / 262144 % 64 * 262144 + n / 4096 % 64 * 4096 + n / 64 % 64 * 64 + n % 64 = n := by omega
    have h₁ : byte (n / 65536) = a := byte_eq (by omega)
    have h₂ : byte (n / 256) = b := byte_eq (by omega)
    have h₃ : byte n = c := byte_eq (by omega)
    simp [decode?, ih, hn, h₁, h₂, h₃]
  | case2 a b n =>
    have ha := a.toNat_lt
    have hb := b.toNat_lt
    have hn : n / 4096 % 64 * 4096 + n / 64 % 64 * 64 + n % 64 = n := by omega
    have h₁ : byte (n / 1024) = a := byte_eq (by omega)
    have h₂ : byte (n / 4) = b := byte_eq (by omega)
    have hfull : n % 4 = 0 := by omega
    simp [decode?, hn, h₁, h₂, hfull]
  | case3 a n =>
    have ha := a.toNat_lt
    have hn : n / 64 % 64 * 64 + n % 64 = n := by omega
    have h₁ : byte (n / 16) = a := byte_eq (by omega)
    have hfull : n % 16 = 0 := by omega
    simp [decode?, hn, h₁, hfull]
  | case4 => rfl

theorem encode_injective {a b : List UInt8} (h : encode a = encode b) : a = b := by
  have ha := decode?_encode a
  rw [h, decode?_encode] at ha
  exact (Option.some.inj ha).symm

theorem isSome_value?_of_decode? {cs : List Char} {bytes : List UInt8} (h : decode? cs = some bytes) :
    ∀ c ∈ cs, (value? c).isSome = true := by
  fun_induction decode? cs generalizing bytes with
  | case1 a b c d rest ih =>
    simp only [Option.bind_eq_bind, Option.bind_eq_some_iff] at h
    obtain ⟨va, ha, vb, hb, vc, hc, vd, hd, tail, htail, -⟩ := h
    simpa [ha, hb, hc, hd] using ih htail
  | case2 a b c =>
    simp only [Option.bind_eq_bind, Option.bind_eq_some_iff] at h
    obtain ⟨va, ha, vb, hb, vc, hc, -⟩ := h
    simp [ha, hb, hc]
  | case3 a b =>
    simp only [Option.bind_eq_bind, Option.bind_eq_some_iff] at h
    obtain ⟨va, ha, vb, hb, -⟩ := h
    simp [ha, hb]
  | case4 => cases h
  | case5 => simp

theorem notMem_of_decode? {cs : List Char} {bytes : List UInt8} (h : decode? cs = some bytes) {c : Char}
    (hc : value? c = none) : c ∉ cs := by
  intro hmem
  have := isSome_value?_of_decode? h c hmem
  rw [hc] at this
  cases this

end ClusterGateway.Base64Url
