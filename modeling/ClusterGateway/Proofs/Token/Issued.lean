import ClusterGateway.Proofs.Json.RoundTrip
import ClusterGateway.Proofs.Token.Accepted

/-!
# Issued tokens

A token that is issued here is accepted here, with the claims it was issued for, as long as they count.
The subject may be any text: it is written as a JSON string, its bytes go through base64, and none of
this leaves a dot behind.
-/

namespace ClusterGateway.Token

variable {secret : String} {c : Claims}

/-! ## The texts of a token -/

def headerValue : Json :=
  .obj [("typ", .str "JWT"), ("alg", .str algorithm)]

theorem decodePart_headerText : decodePart (encodePart headerText).toList = .ok headerValue := by
  have hparse : Json.parseAsWritten? headerText = some headerValue := by decide +kernel
  exact decodePart_encodePart hparse

def claimsValue (c : Claims) : Json :=
  .obj [("sub", .str c.subject), ("access_level", .str c.level.name), ("exp", .ofNat c.expires),
    ("iat", .ofNat c.issued)]

structure InRange (c : Claims) : Prop where
  expires : c.expires < 2 ^ 64
  issued : c.issued < 2 ^ 64

theorem exact_ofNat {n : Nat} (h : n < 2 ^ 64) : (Json.Number.int n).Exact :=
  ⟨by omega, by omega⟩

theorem decodePart_claimsText (h : InRange c) :
    decodePart (encodePart (claimsText c)).toList = .ok (claimsValue c) := by
  have hfits : (claimsValue c).Fits Json.Reader.maxDepth :=
    ⟨126, rfl, trivial, trivial, exact_ofNat h.expires, exact_ofNat h.issued, trivial⟩
  exact decodePart_encodePart (Json.parseAsWritten?_render hfits)

theorem ofJson?_claimsValue (h : InRange c) : Claims.ofJson? (claimsValue c) = some c := by
  simp [Claims.ofJson?, claimsValue, record?, Json.record?, Json.Fields.get?, Json.string?, Json.tag?,
    Json.uint64?_ofNat h.expires, Json.uint64?_ofNat h.issued]

theorem hasCheckedClaims_claimsValue (c : Claims) : hasCheckedClaims (claimsValue c) = true := by
  simp [hasCheckedClaims, claimsValue]

theorem hasAudience_claimsValue (c : Claims) : hasAudience (claimsValue c) = false := by
  simp [hasAudience, claimsValue, Json.Fields.get?]

/-! ## Signing and checking -/

def signedParts (secret : String) (c : Claims) : Parts :=
  let message := encodePart headerText ++ "." ++ encodePart (claimsText c)
  ⟨(encodePart headerText).toList, (encodePart (claimsText c)).toList, (signature secret message).toList⟩

theorem toList_sign (secret : String) (c : Claims) : (sign secret c).toList = (signedParts secret c).token := by
  simp [sign, signedParts, Parts.token, Parts.message]

theorem signedParts_dotless (secret : String) (h : InRange c) : (signedParts secret c).Dotless :=
  ⟨dot_notMem_of_decodePart decodePart_headerText, dot_notMem_of_decodePart (decodePart_claimsText h),
    dot_notMem_signature _ _⟩

theorem signedParts_valid (secret : String) (h : InRange c) {now : Nat} (hnow : now ≤ c.expires + leeway) :
    (signedParts secret c).Valid secret now c where
  dotless := signedParts_dotless secret h
  header := ⟨headerValue, decodePart_headerText, by decide⟩
  signature := by
    have hmessage : String.ofList (signedParts secret c).message =
        encodePart headerText ++ "." ++ encodePart (claimsText c) := by
      rw [← String.toList_inj]
      simp [signedParts, Parts.message]
    rw [hmessage, signedParts, String.ofList_toList]
  claims := ⟨claimsValue c, decodePart_claimsText h, ofJson?_claimsValue h, hasCheckedClaims_claimsValue c,
    hasAudience_claimsValue c⟩
  inTime := hnow

theorem validate_sign (secret : String) (h : InRange c) {now : Nat} (hnow : now ≤ c.expires + leeway) :
    validate secret (sign secret c) now = .ok c :=
  validate_eq_ok_iff.2 ⟨_, (toList_sign secret c).symm, signedParts_valid secret h hnow⟩

theorem Parts.splitOn_token {p : Parts} (h : p.Dotless) :
    p.token.splitOn '.' = [p.header, p.claims, p.signature] := by
  have hdots : p.token = ['.'].intercalate [p.header, p.claims, p.signature] := by
    simp [token, message, List.intercalate]
  rw [hdots, List.splitOn_intercalate '.' _ (List.cons_ne_nil _ _)]
  simp only [List.mem_cons, List.not_mem_nil, or_false, forall_eq_or_imp, forall_eq]
  exact ⟨h.header, h.claims, h.signature⟩

/-- **An issued token is accepted, with the claims it was issued for.** It has three parts between
dots, and until a minute after its end it is read as the subject and the level that it was issued for,
at the time of issue and for the lifetime that was asked for. -/
theorem validate_issue (secret subject : String) (level : Level) {now lifetime later : Nat}
    (hrange : now + lifetime < 2 ^ 64) (hlater : later ≤ now + lifetime + 60) :
    ((issue secret subject level now lifetime).toList.splitOn '.').length = 3 ∧
      validate secret (issue secret subject level now lifetime) later =
        .ok { subject, level, expires := now + lifetime, issued := now } := by
  have hissue : issue secret subject level now lifetime = sign secret ⟨subject, level, now + lifetime, now⟩ := by
    have hmod : (now + lifetime) % Nat.pow 2 64 = now + lifetime := Nat.mod_eq_of_lt hrange
    rw [issue, hmod]
  have hinRange : InRange ⟨subject, level, now + lifetime, now⟩ := ⟨hrange, by simp only; omega⟩
  constructor
  · rw [hissue, toList_sign, Parts.splitOn_token (signedParts_dotless secret hinRange)]
    rfl
  · rw [hissue, validate_sign secret hinRange hlater]

theorem validate_issue_of_odd_subject :
    1700000000 + 3600 < 2 ^ 64 ∧ 1700003660 ≤ 1700000000 + 3600 + 60 ∧
      ((issue "secret" "a\"b\\.c\x01\n𝔸" .admin 1700000000 3600).toList.splitOn '.').length = 3 ∧
      validate "secret" (issue "secret" "a\"b\\.c\x01\n𝔸" .admin 1700000000 3600) 1700003660 =
        .ok ⟨"a\"b\\.c\x01\n𝔸", .admin, 1700003600, 1700000000⟩ :=
  ⟨by decide, by decide, validate_issue "secret" "a\"b\\.c\x01\n𝔸" .admin (by decide) (by decide)⟩

end ClusterGateway.Token
