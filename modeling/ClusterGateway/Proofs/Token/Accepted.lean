import ClusterGateway.Proofs.Operation.Checked
import ClusterGateway.Proofs.Text.Utf8
import ClusterGateway.Proofs.Token.Base64Url
import ClusterGateway.Token.Basic

/-!
# Accepted tokens

A token is accepted exactly if it has three parts between dots, the first of which names the one
algorithm, the second of which holds claims that still count, and the third of which is the signature
of the text before it. So whoever has two accepted tokens with one signature has a collision of the
keyed digest.
-/

namespace ClusterGateway.Token

/-! ## Parts of a token -/

theorem splitLast?_of_notMem {after : List Char} (h : '.' ∉ after) (before : List Char) :
    splitLast? (before ++ '.' :: after) = some (before, after) := by
  have hafter : ∀ c ∈ after.reverse, decide (c ≠ '.') = true := by
    intro c hc
    rw [List.mem_reverse] at hc
    exact decide_eq_true fun hdot => h (hdot ▸ hc)
  have hreverse : (before ++ '.' :: after).reverse = after.reverse ++ '.' :: before.reverse := by simp
  rw [splitLast?, hreverse, List.dropWhile_append_of_pos hafter, List.takeWhile_append_of_pos hafter]
  simp

theorem splitLast?_of_notMem_dot {cs : List Char} (h : '.' ∉ cs) : splitLast? cs = none := by
  have hall : cs.reverse.dropWhile (fun c => decide (c ≠ '.')) = [] := by
    rw [List.dropWhile_eq_nil_iff]
    intro c hc
    rw [List.mem_reverse] at hc
    exact decide_eq_true fun hdot => h (hdot ▸ hc)
  rw [splitLast?, hall]

theorem splitLast?_eq_some_iff {cs before after : List Char} :
    splitLast? cs = some (before, after) ↔ cs = before ++ '.' :: after ∧ '.' ∉ after := by
  constructor
  · intro h
    by_cases hdot : '.' ∈ cs
    · -- the last dot is the first one from behind
      obtain ⟨as, bs, hreverse, has⟩ := List.eq_append_cons_of_mem (List.mem_reverse.2 hdot)
      have has : '.' ∉ as.reverse := by rwa [List.mem_reverse]
      have hcs : cs = bs.reverse ++ '.' :: as.reverse := by
        rw [← List.reverse_reverse cs, hreverse]
        simp
      rw [hcs, splitLast?_of_notMem has] at h
      cases h
      exact ⟨hcs, has⟩
    · rw [splitLast?_of_notMem_dot hdot] at h
      cases h
  · rintro ⟨rfl, hafter⟩
    exact splitLast?_of_notMem hafter before

structure Parts where
  header : List Char
  claims : List Char
  signature : List Char

namespace Parts

def message (p : Parts) : List Char := p.header ++ '.' :: p.claims

def token (p : Parts) : List Char := p.message ++ '.' :: p.signature

structure Dotless (p : Parts) : Prop where
  header : '.' ∉ p.header
  claims : '.' ∉ p.claims
  signature : '.' ∉ p.signature

theorem splitLast?_token {p : Parts} (h : p.Dotless) : splitLast? p.token = some (p.message, p.signature) :=
  splitLast?_of_notMem h.signature p.message

theorem splitLast?_message {p : Parts} (h : p.Dotless) : splitLast? p.message = some (p.header, p.claims) :=
  splitLast?_of_notMem h.claims p.header

theorem eq_of_token {p p' : Parts} (h : p.Dotless) (h' : p'.Dotless) (htoken : p.token = p'.token) : p = p' := by
  have hlast := splitLast?_token h
  rw [htoken, splitLast?_token h'] at hlast
  obtain ⟨hmessage, hsignature⟩ := Prod.mk.inj (Option.some.inj hlast)
  have hfirst := splitLast?_message h
  rw [← hmessage, splitLast?_message h'] at hfirst
  obtain ⟨hheader, hclaims⟩ := Prod.mk.inj (Option.some.inj hfirst)
  cases p
  cases p'
  simp_all

end Parts

/-! ## Encoded parts -/

theorem decodePart_eq_ok_iff {part : List Char} {v : Json} :
    decodePart part = .ok v ↔ ∃ bytes text, Base64Url.decode? part = some bytes ∧
      Text.Utf8.decode? bytes = some text ∧ Json.parseAsWritten? text = some v := by
  unfold decodePart
  split
  next h => simp [h]
  next bytes hbytes =>
    split
    next h =>
      rw [Option.bind_eq_none_iff] at h
      simp +contextual [hbytes, h]
    next v' h =>
      obtain ⟨text, htext, hv⟩ := Option.bind_eq_some_iff.1 h
      simp [hbytes, htext, hv]

theorem dot_notMem_of_decodePart {part : List Char} {v : Json} (h : decodePart part = .ok v) : '.' ∉ part := by
  obtain ⟨bytes, _, hbytes, -⟩ := decodePart_eq_ok_iff.1 h
  exact Base64Url.notMem_of_decode? hbytes (by decide)

theorem decodePart_encodePart {text : String} {v : Json} (h : Json.parseAsWritten? text = some v) :
    decodePart (encodePart text).toList = .ok v := by
  refine decodePart_eq_ok_iff.2 ⟨_, text, ?_, Text.Utf8.decode?_encode text, h⟩
  rw [encodePart, String.toList_ofList, Base64Url.decode?_encode]

theorem dot_notMem_signature (secret message : String) : '.' ∉ (signature secret message).toList := by
  rw [signature, String.toList_ofList]
  exact Base64Url.notMem_of_decode? (Base64Url.decode?_encode _) (by decide)

/-! ## What is accepted -/

/-- Parts that hold these claims, signed by the one algorithm under the secret, at a time at which they
still count. -/
structure Parts.Valid (p : Parts) (secret : String) (now : Nat) (c : Claims) : Prop where
  dotless : p.Dotless
  header : ∃ v, decodePart p.header = .ok v ∧ headerAlgorithm? v = some algorithm
  signature : String.ofList p.signature = Token.signature secret (String.ofList p.message)
  claims : ∃ v, decodePart p.claims = .ok v ∧ Claims.ofJson? v = some c ∧ hasCheckedClaims v = true ∧
    hasAudience v = false
  inTime : now ≤ c.expires + leeway

theorem validate_eq_ok_iff {secret token : String} {now : Nat} {c : Claims} :
    validate secret token now = .ok c ↔ ∃ p : Parts, p.token = token.toList ∧ p.Valid secret now c := by
  constructor
  · intro h
    unfold validate at h
    split at h
    next message signed hsplit =>
      split at h
      next header claims hsplit' =>
        obtain ⟨named, hheader, h⟩ := Checked.bind_eq_ok_iff.1 h
        split at h
        next hnamed =>
          simp only [Checked.guard_eq_ok_iff, Checked.bind_eq_ok_iff, not_not] at h
          obtain ⟨rfl, hsigned, v, hv, h⟩ := h
          split at h
          next hc =>
            simp only [Checked.guard_eq_ok_iff, Checked.pure_eq_ok_iff, Bool.not_eq_true', Bool.not_eq_false,
              Bool.not_eq_true, Nat.not_lt] at h
            obtain ⟨hchecked, hinTime, haudience, rfl⟩ := h
            obtain ⟨htoken, hdotless⟩ := splitLast?_eq_some_iff.1 hsplit
            obtain ⟨rfl, -⟩ := splitLast?_eq_some_iff.1 hsplit'
            exact ⟨⟨header, claims, signed⟩, htoken.symm,
              ⟨dot_notMem_of_decodePart hheader, dot_notMem_of_decodePart hv, hdotless⟩, ⟨_, hheader, hnamed⟩,
              hsigned.symm, ⟨v, hv, hc, hchecked, haudience⟩, hinTime⟩
          next => cases h
        next => cases h
      next => cases h
    next => cases h
  · rintro ⟨p, htoken, hp⟩
    obtain ⟨header, hheader, hnamed⟩ := hp.header
    obtain ⟨v, hv, hc, hchecked, haudience⟩ := hp.claims
    have hinTime : ¬ c.expires + leeway < now := Nat.not_lt.2 hp.inTime
    simp [validate, ← htoken, Parts.splitLast?_token hp.dotless, Parts.splitLast?_message hp.dotless, hheader, hnamed,
      hp.signature, hv, hc, hchecked, haudience, hinTime]

/-! ## What the claims say -/

theorem record?_obj {names : List String} {fields : List (String × Json)} {field : String → Option Json}
    (h : record? names (.obj fields) = some field) :
    (∀ name, field name = Json.Fields.get? name fields) ∧
      ∀ name ∈ names, (fields.filter (·.1 == name)).length ≤ 1 := by
  simp only [record?, Json.record?] at h
  split at h
  next => cases h
  next hany =>
    obtain rfl := Option.some.inj h
    refine ⟨fun _ => rfl, fun name hname => ?_⟩
    simpa using fun hlt => hany (List.any_eq_true.2 ⟨name, hname, decide_eq_true hlt⟩)

theorem mem_of_get? {name : String} {v : Json} {fields : List (String × Json)}
    (h : Json.Fields.get? name fields = some v) : (name, v) ∈ fields := by
  induction fields with
  | nil => cases h
  | cons field rest ih =>
    obtain ⟨k, w⟩ := field
    by_cases hk : k = name
    · rw [Json.Fields.get?, if_pos hk] at h
      obtain rfl := Option.some.inj h
      exact hk ▸ List.mem_cons_self
    · rw [Json.Fields.get?, if_neg hk] at h
      exact List.mem_cons_of_mem _ (ih h)

theorem filter_eq_of_get? {name : String} {v : Json} {fields : List (String × Json)}
    (h : Json.Fields.get? name fields = some v) (hone : (fields.filter (·.1 == name)).length ≤ 1) :
    fields.filter (·.1 == name) = [(name, v)] := by
  have hmem : (name, v) ∈ fields.filter (·.1 == name) := List.mem_filter.2 ⟨mem_of_get? h, beq_self_eq_true name⟩
  obtain ⟨field, hfield⟩ := List.length_eq_one_iff.1 (Nat.le_antisymm hone (List.length_pos_of_mem hmem))
  rw [hfield, List.mem_singleton] at hmem
  rw [hfield, hmem]

theorem eq_of_uint64? {v : Json} {n : Nat} (h : v.uint64? = some n) : v = .ofNat n := by
  unfold Json.uint64? Json.natBelow? at h
  split at h
  next i =>
    split at h
    next hrange =>
      obtain rfl := Option.some.inj h
      rw [Json.ofNat, Int.toNat_of_nonneg hrange.1]
    next => cases h
  next => cases h

theorem eq_of_string? {v : Json} {text : String} (h : v.string? = some text) : v = .str text := by
  cases v with
  | str s => exact congrArg Json.str (Option.some.inj h)
  | _ => cases h

theorem name_of_ofName? {name : String} {l : Level} (h : Level.ofName? name = some l) : l.name = name := by
  simpa using List.find?_some h

/-- The claims are what the fields of an object say, and no field of a claim comes twice. -/
structure StatedBy (c : Claims) (fields : List (String × Json)) : Prop where
  subject : fields.filter (·.1 == "sub") = [("sub", .str c.subject)]
  level : ∃ v, fields.filter (·.1 == "access_level") = [("access_level", v)] ∧ v.tag? = some c.level.name
  expires : fields.filter (·.1 == "exp") = [("exp", .ofNat c.expires)]
  issued : fields.filter (·.1 == "iat") = [("iat", .ofNat c.issued)]

theorem statedBy_of_ofJson? {fields : List (String × Json)} {c : Claims}
    (h : Claims.ofJson? (.obj fields) = some c) : StatedBy c fields := by
  simp only [Claims.ofJson?, Option.bind_eq_bind, Option.bind_eq_some_iff, Option.pure_def, Option.some.injEq] at h
  obtain ⟨field, hfield, subject, hsubject, text, htext, level, hlevel, name, hname, l, hl, exp, hexp, expires,
    hexpires, iat, hiat, issued, hissued, rfl⟩ := h
  obtain ⟨hget, hone⟩ := record?_obj hfield
  rw [hget] at hsubject hlevel hexp hiat
  obtain rfl := eq_of_uint64? hexpires
  obtain rfl := eq_of_uint64? hissued
  obtain rfl := eq_of_string? htext
  rw [← name_of_ofName? hl] at hname
  exact ⟨filter_eq_of_get? hsubject (hone _ (by simp)),
    ⟨level, filter_eq_of_get? hlevel (hone _ (by simp)), hname⟩,
    filter_eq_of_get? hexp (hone _ (by simp)), filter_eq_of_get? hiat (hone _ (by simp))⟩

theorem exists_obj_of_checked {v : Json} (h : hasCheckedClaims v = true) : ∃ fields, v = .obj fields := by
  cases v with
  | obj fields => exact ⟨fields, rfl⟩
  | _ => cases h

/-- The parts prove the claims: whoever wrote them had the digest of the text before the signature under
the secret. -/
structure Parts.Proves (p : Parts) (secret : String) (now : Nat) (c : Claims) : Prop where
  dotless : p.Dotless
  header : ∃ v, decodePart p.header = .ok v ∧ headerAlgorithm? v = some "HS256"
  signature : p.signature =
    Base64Url.encode (Sha256.hmac (Text.Utf8.encode secret) (Text.Utf8.encode (String.ofList p.message)))
  claims : ∃ fields, decodePart p.claims = .ok (.obj fields) ∧ StatedBy c fields
  inTime : now ≤ c.expires + 60

theorem Parts.Valid.proves {p : Parts} {secret : String} {now : Nat} {c : Claims} (h : p.Valid secret now c) :
    p.Proves secret now c where
  dotless := h.dotless
  header := h.header
  signature := String.ofList_injective h.signature
  claims := by
    obtain ⟨v, hv, hc, hchecked, -⟩ := h.claims
    obtain ⟨fields, rfl⟩ := exists_obj_of_checked hchecked
    exact ⟨fields, hv, statedBy_of_ofJson? hc⟩
  inTime := h.inTime

theorem proves_of_validate {secret token : String} {now : Nat} {c : Claims} (h : validate secret token now = .ok c)
    {p : Parts} (hp : p.Dotless) (htoken : p.token = token.toList) : p.Proves secret now c := by
  obtain ⟨p', htoken', hvalid⟩ := validate_eq_ok_iff.1 h
  rw [Parts.eq_of_token hp hvalid.dotless (htoken.trans htoken'.symm)]
  exact hvalid.proves

/-- Two parts that go with one signature and differ elsewhere are a collision of the digest. -/
theorem Parts.Proves.collision {p p' : Parts} {secret : String} {now now' : Nat} {c c' : Claims}
    (h : p.Proves secret now c) (h' : p'.Proves secret now' c') (hsignature : p.signature = p'.signature)
    (hne : p.header ≠ p'.header ∨ p.claims ≠ p'.claims) :
    Text.Utf8.encode (String.ofList p.message) ≠ Text.Utf8.encode (String.ofList p'.message) ∧
      Sha256.hmac (Text.Utf8.encode secret) (Text.Utf8.encode (String.ofList p.message)) =
        Sha256.hmac (Text.Utf8.encode secret) (Text.Utf8.encode (String.ofList p'.message)) := by
  have hmessage : p.message ≠ p'.message := by
    intro hmessage
    have hparts := Parts.splitLast?_message h.dotless
    rw [hmessage, Parts.splitLast?_message h'.dotless] at hparts
    obtain ⟨hheader, hclaims⟩ := Prod.mk.inj (Option.some.inj hparts)
    exact hne.elim (fun hne => hne hheader.symm) fun hne => hne hclaims.symm
  constructor
  · intro hbytes
    exact hmessage (String.ofList_injective (Text.Utf8.encode_injective hbytes))
  · rw [h.signature, h'.signature] at hsignature
    exact Base64Url.encode_injective hsignature

end ClusterGateway.Token
