import ClusterGateway.Http.Serve
import ClusterGateway.Proofs.Token.Issued
import ClusterGateway.Simulated.Fleet

/-!
# Requests and their credentials

Behind the credentials nothing happens without a valid token: a request that presents none is answered
before anything is asked of a cluster, and one that does is handled for the principal that the token
names, on the level that it names.
-/

namespace ClusterGateway.Http

/-- The token that a request presents: what its first authorization header, a text, says after
`Bearer` and a blank. -/
def Request.Presents (r : Request) (token : String) : Prop :=
  ∃ value, (r.headers.find? (·.1 == "authorization")).map Prod.snd = some value ∧
    (∀ c ∈ value.toList, isVisible c = true) ∧ value = "Bearer " ++ token

namespace Request

theorem toString_drop_bearer (token : String) : (("Bearer " ++ token).drop 7).toString = token := by
  have hlength : "Bearer ".toList.length = 7 := rfl
  rw [← String.toList_inj]
  exact String.toList_copy_drop.trans (by rw [String.toList_append, List.drop_left' hlength])

theorem startsWith_bearer_iff {value : String} :
    value.startsWith "Bearer " = true ↔ ∃ token, value = "Bearer " ++ token := by
  rw [String.startsWith_string_iff]
  constructor
  · rintro ⟨rest, hrest⟩
    exact ⟨String.ofList rest, by simp [← String.toList_inj, ← hrest]⟩
  · rintro ⟨token, rfl⟩
    rw [String.toList_append]
    exact List.prefix_append _ _

theorem header?_eq_some_iff {r : Request} {name value : String} :
    r.header? name = some value ↔
      (r.headers.find? (·.1 == name)).map Prod.snd = some value ∧ ∀ c ∈ value.toList, isVisible c = true := by
  unfold header?
  cases r.headers.find? (·.1 == name) with
  | none => simp
  | some h =>
    obtain ⟨_, found⟩ := h
    simp only [Option.map_some, Option.some.injEq]
    split
    next hall =>
      rw [String.all_bool_eq, List.all_eq_true] at hall
      rw [Option.some.injEq]
      exact ⟨fun hvalue => ⟨hvalue, hvalue ▸ hall⟩, And.left⟩
    next hall =>
      rw [String.all_bool_eq, List.all_eq_true] at hall
      simp only [reduceCtorEq, false_iff, not_and]
      rintro rfl hvisible
      exact hall hvisible

theorem presents_iff {r : Request} {token : String} :
    ((r.header? "authorization").bind fun value =>
      if value.startsWith "Bearer " then some (value.drop 7).toString else none) = some token ↔
        r.Presents token := by
  simp only [Option.bind_eq_some_iff, header?_eq_some_iff, Presents, and_assoc]
  refine exists_congr fun value => and_congr_right fun _ => and_congr_right fun _ => ?_
  constructor
  · intro h
    split at h
    next hstarts =>
      obtain ⟨token', rfl⟩ := startsWith_bearer_iff.1 hstarts
      rw [toString_drop_bearer, Option.some.injEq] at h
      rw [h]
    next => cases h
  · rintro rfl
    rw [if_pos (startsWith_bearer_iff.2 ⟨token, rfl⟩), toString_drop_bearer]

end Request

namespace Auth

variable {a : Auth} {r : Request}

theorem principal_eq_ok_iff {p : Principal} :
    a.principal r = .ok p ↔ ∃ token c, r.Presents token ∧ Token.validate a.secret token a.now = .ok c ∧
      p = ⟨c.subject, c.level⟩ := by
  constructor
  · intro h
    simp only [principal] at h
    split at h
    next => cases h
    next token htoken =>
      split at h
      next => cases h
      next c hc =>
        cases h
        exact ⟨token, c, Request.presents_iff.1 htoken, hc, rfl⟩
  · rintro ⟨token, c, hpresents, hc, rfl⟩
    simp only [principal]
    rw [Request.presents_iff.2 hpresents]
    simp only [hc]

theorem status_of_principal {e : ApiError} (h : a.principal r = .error e) : e.status = 401 := by
  unfold principal at h
  simp only at h
  split at h
  · cases h
    rfl
  · split at h
    · cases h
      rfl
    · cases h

end Auth

/-! ## Accepted tokens can be presented -/

theorem isVisible_of_value? {c : Char} (h : (Base64Url.value? c).isSome = true) : isVisible c = true := by
  have hbounds : 0x20 ≤ c.toNat ∧ c.toNat < 0x7F := by
    unfold Base64Url.value? at h
    simp only at h
    split_ifs at h with _ _ _ hdash hline
    · omega
    · omega
    · omega
    · subst hdash
      decide
    · subst hline
      decide
    · cases h
  simp [isVisible, hbounds]

theorem isVisible_of_decode? {cs : List Char} {bytes : List UInt8} (h : Base64Url.decode? cs = some bytes) :
    ∀ c ∈ cs, isVisible c = true :=
  fun c hc => isVisible_of_value? (Base64Url.isSome_value?_of_decode? h c hc)

theorem isVisible_of_proves {p : Token.Parts} {secret : String} {now : Nat} {claims : Claims}
    (h : p.Proves secret now claims) : ∀ c ∈ p.token, isVisible c = true := by
  obtain ⟨_, hheader, -⟩ := h.header
  obtain ⟨_, hclaims, -⟩ := h.claims
  obtain ⟨_, _, hheader, -⟩ := Token.decodePart_eq_ok_iff.1 hheader
  obtain ⟨_, _, hclaims, -⟩ := Token.decodePart_eq_ok_iff.1 hclaims
  have hsignature : Base64Url.decode? p.signature = _ := h.signature ▸ Base64Url.decode?_encode _
  have hdot : isVisible '.' = true := by decide
  intro c hc
  simp only [Token.Parts.token, Token.Parts.message, List.append_assoc, List.cons_append, List.mem_append,
    List.mem_cons] at hc
  rcases hc with hc | rfl | hc | rfl | hc
  · exact isVisible_of_decode? hheader c hc
  · exact hdot
  · exact isVisible_of_decode? hclaims c hc
  · exact hdot
  · exact isVisible_of_decode? hsignature c hc

theorem Request.presents_of_validate {r : Request} {secret token name : String} {now : Nat} {c : Claims}
    (h : Token.validate secret token now = .ok c)
    (hr : r.headers.find? (·.1 == "authorization") = some (name, "Bearer " ++ token)) : r.Presents token := by
  obtain ⟨p, htoken, hvalid⟩ := Token.validate_eq_ok_iff.1 h
  refine ⟨"Bearer " ++ token, by rw [hr, Option.map_some], ?_, rfl⟩
  have hbearer : "Bearer ".toList.all isVisible = true := by decide
  intro c hc
  rw [String.toList_append, List.mem_append] at hc
  exact hc.elim (List.all_eq_true.1 hbearer c) fun hc => isVisible_of_proves hvalid.proves c (htoken ▸ hc)

/-! ## What the credentials let through -/

section
variable {σ κ : Type} [DecidableEq κ] (g : Settings) (f : Fleet σ κ)

def answerTo (p : Principal) (r : Request) (route : Route) (s : State σ κ) : Option Response × State σ κ :=
  if route.accepts r.method then
    let (response, s') := handle g f p r route s
    (response.map fun response => Cors.mark (if r.method = "HEAD" then response.withoutBody else response), s')
  else (some (Cors.mark ((Response.ofStatus 405).withHeader "allow" route.allow)), s)

variable {g f} {a : Auth} {r : Request} {route : Route} {s : State σ κ}

theorem serve_of_error (hroute : Route.ofPath? r.target.path = some route) (hpublic : route.isPublic = false)
    (hmethod : r.method ≠ "OPTIONS") {e : ApiError} (he : a.principal r = .error e) :
    ∃ response, serve g f a r s = (some response, s) ∧ response.status = 401 := by
  have hstatus := Auth.status_of_principal he
  simp only [serve, if_neg hmethod, hroute, onRoute, hpublic, Bool.false_eq_true, if_false, guarded, he]
  refine ⟨_, rfl, ?_⟩
  split
  · exact hstatus
  · split
    · exact hstatus
    · exact hstatus

theorem serve_of_ok (hroute : Route.ofPath? r.target.path = some route) (hpublic : route.isPublic = false)
    (hmethod : r.method ≠ "OPTIONS") {p : Principal} (hp : a.principal r = .ok p) :
    serve g f a r s = answerTo g f p r route s := by
  simp only [serve, if_neg hmethod, hroute, onRoute, hpublic, Bool.false_eq_true, if_false, guarded, hp, answerTo]
  by_cases haccepts : route.accepts r.method = true
  · simp [haccepts, Function.comp_def]
  · simp [haccepts]

variable (g f a)

/-- **Only who presents a signed token is served, on the level that the token names.** Any other request
on a route with credentials is refused with nothing done: no client built, no call made, nothing changed.
Two accepted tokens that differ before one and the same signature are a collision of the digest. -/
theorem only_signed_tokens_are_served :
    (∀ (r : Request) (route : Route) (s : State σ κ), Route.ofPath? r.target.path = some route →
      route.isPublic = false → r.method ≠ "OPTIONS" →
      ((¬ ∃ token c, r.Presents token ∧ Token.validate a.secret token a.now = .ok c) →
        ∃ response, serve g f a r s = (some response, s) ∧ response.status = 401) ∧
      ∀ token c, r.Presents token → Token.validate a.secret token a.now = .ok c →
        serve g f a r s = answerTo g f ⟨c.subject, c.level⟩ r route s ∧
          ∃ p : Token.Parts, p.token = token.toList ∧ p.Proves a.secret a.now c) ∧
    ∀ (token token' : String) (now now' : Nat) (c c' : Claims) (p p' : Token.Parts),
      Token.validate a.secret token now = .ok c → Token.validate a.secret token' now' = .ok c' →
      p.Dotless → p.token = token.toList → p'.Dotless → p'.token = token'.toList →
      p.signature = p'.signature → p.header ≠ p'.header ∨ p.claims ≠ p'.claims →
      let key := Text.Utf8.encode a.secret
      let message := Text.Utf8.encode (String.ofList p.message)
      let message' := Text.Utf8.encode (String.ofList p'.message)
      message ≠ message' ∧ Sha256.hmac key message = Sha256.hmac key message' := by
  constructor
  · intro r route s hroute hpublic hmethod
    constructor
    · intro hnone
      cases hp : a.principal r with
      | error e => exact serve_of_error hroute hpublic hmethod hp
      | ok p =>
        obtain ⟨token, c, hpresents, hc, -⟩ := Auth.principal_eq_ok_iff.1 hp
        exact absurd ⟨token, c, hpresents, hc⟩ hnone
    · intro token c hpresents hc
      have hp : a.principal r = .ok ⟨c.subject, c.level⟩ :=
        Auth.principal_eq_ok_iff.2 ⟨token, c, hpresents, hc, rfl⟩
      obtain ⟨p, htoken, hvalid⟩ := Token.validate_eq_ok_iff.1 hc
      exact ⟨serve_of_ok hroute hpublic hmethod hp, p, htoken, hvalid.proves⟩
  · intro token token' now now' c c' p p' hc hc' hp htoken hp' htoken' hsignature hne
    exact (Token.proves_of_validate hc hp htoken).collision (Token.proves_of_validate hc' hp' htoken') hsignature hne

theorem only_signed_tokens_are_served_of_list :
    let g : Settings := ⟨⟨[], rfl⟩, ⟨[]⟩, none⟩
    let f := Simulated.fleet .echo
    let a : Auth := ⟨"secret", 1700000100⟩
    let token := Token.issue "secret" "alice" .user 1700000000 3600
    let bare : Request := ⟨"GET", ⟨"/workload/pods".toList, none⟩, [], []⟩
    let r : Request := { bare with headers := [("authorization", "Bearer " ++ token)] }
    let s : State Simulated.World Simulated.Client :=
      ⟨.start ⟨⟨"default", .inCluster⟩, [], by decide⟩ ⟨"default", 1⟩, .empty, 0, []⟩
    (∃ p : Token.Parts, p.token = token.toList ∧
      p.Proves "secret" 1700000100 ⟨"alice", .user, 1700003600, 1700000000⟩) ∧
      serve g f a r s = answerTo g f ⟨"alice", .user⟩ r (.objects "pods".toList) s ∧
      ∃ response, serve g f a bare s = (some response, s) ∧ response.status = 401 := by
  intro g f a token bare r s
  have hroute : Route.ofPath? "/workload/pods".toList = some (.objects "pods".toList) := by decide
  have hvalidate : Token.validate "secret" token 1700000100 = .ok ⟨"alice", .user, 1700003600, 1700000000⟩ :=
    Token.validate_sign "secret" ⟨by decide, by decide⟩ (by decide)
  obtain ⟨hrequests, -⟩ := only_signed_tokens_are_served g f a
  obtain ⟨-, haccepted⟩ := hrequests r _ s hroute rfl (by decide)
  obtain ⟨hrefused, -⟩ := hrequests bare _ s hroute rfl (by decide)
  obtain ⟨hserve, hparts⟩ := haccepted token _ (Request.presents_of_validate hvalidate rfl) hvalidate
  refine ⟨hparts, hserve, hrefused ?_⟩
  rintro ⟨_, _, ⟨value, hvalue, -⟩, -⟩
  cases hvalue

end

end ClusterGateway.Http
