import ClusterGateway.Proofs.Http.Credentials

/-!
# Operations over HTTP

Behind the credentials a method on a path stands for a verb on a kind, and the request is answered as
the gateway answers this one operation. What cannot be read, be it in the path or in the body, is
refused before the gateway is asked.
-/

namespace ClusterGateway

namespace Uri

variable {c : Char} {s : List Char}

theorem splitAll_of_notMem (h : c ∉ s) : splitAll c s = [s] := by
  induction s with
  | nil => rfl
  | cons d s ih =>
    simp only [List.mem_cons, not_or] at h
    simp only [splitAll, if_neg (Ne.symm h.1), ih h.2]

theorem splitAll_append (h : c ∉ s) (rest : List Char) : splitAll c (s ++ c :: rest) = s :: splitAll c rest := by
  induction s with
  | nil => simp only [List.nil_append, splitAll, if_true]
  | cons d s ih =>
    simp only [List.mem_cons, not_or] at h
    simp only [List.cons_append, splitAll, if_neg (Ne.symm h.1), ih h.2]

end Uri

namespace Http

/-! ## Paths -/

/-- What a method on a path asks for, with the kind and, where the path has one, the name as they are
written there. The words of the fixed routes are no kinds, and `describe` is no name. -/
inductive Request.Asks (r : Request) : Verb → List Char → Option (List Char) → Prop
  | objects {kind : List Char} {verb : Verb}
      (method : (r.method, verb) ∈
        [("GET", Verb.list), ("POST", Verb.create), ("PATCH", Verb.update), ("DELETE", Verb.delete)])
      (path : r.target.path = "/workload/".toList ++ kind) (segment : '/' ∉ kind) (nonempty : kind ≠ [])
      (free : String.ofList kind ∉ ["templates", "available-resources", "contexts"]) : r.Asks verb kind none
  | describe {kind : List Char} (method : r.method = "GET")
      (path : r.target.path = "/workload/".toList ++ kind ++ "/describe".toList) (segment : '/' ∉ kind) :
      r.Asks .describe kind none
  | object {kind name : List Char} (method : r.method = "GET")
      (path : r.target.path = "/workload/".toList ++ kind ++ '/' :: name) (segment : '/' ∉ kind)
      (segment' : '/' ∉ name) (nonempty : name ≠ []) (free : String.ofList name ≠ "describe") :
      r.Asks .get kind (some name)

namespace Route

theorem isEmpty_ofList {s : List Char} (h : s ≠ []) : (String.ofList s).isEmpty = false := by
  rw [← Bool.not_eq_true, String.isEmpty_iff]
  exact fun hempty => h (String.ofList_eq_empty_iff.mp hempty)

theorem splitAll_workload (rest : List Char) :
    (Uri.splitAll '/' ("/workload/".toList ++ rest)).map String.ofList =
      "" :: "workload" :: (Uri.splitAll '/' rest).map String.ofList := by
  have hpath : "/workload/".toList ++ rest = '/' :: ("workload".toList ++ '/' :: rest) := rfl
  rw [hpath, Uri.splitAll, if_pos rfl, Uri.splitAll_append (by decide)]
  rfl

theorem ofPath?_objects {kind : List Char} (hs : '/' ∉ kind) (hk : kind ≠ [])
    (hf : String.ofList kind ∉ ["templates", "available-resources", "contexts"]) :
    ofPath? ("/workload/".toList ++ kind) = some (.objects kind) := by
  simp only [List.mem_cons, List.not_mem_nil, or_false, not_or] at hf
  obtain ⟨htemplates, hkinds, hcontexts⟩ := hf
  rw [ofPath?, splitAll_workload, Uri.splitAll_of_notMem hs]
  simp [htemplates, hkinds, hcontexts, isEmpty_ofList hk]

theorem ofPath?_object {kind name : List Char} (hs : '/' ∉ kind) (hs' : '/' ∉ name) (hn : name ≠ []) :
    ofPath? ("/workload/".toList ++ kind ++ '/' :: name) =
      some (if String.ofList name = "describe" then .describe kind else .object kind name) := by
  rw [ofPath?, List.append_assoc, splitAll_workload, Uri.splitAll_append hs, Uri.splitAll_of_notMem hs']
  by_cases hd : String.ofList name = "describe"
  · simp [hd]
  · simp [isEmpty_ofList hn, hd]

end Route

def segments? (kind : List Char) (name : Option (List Char)) : Option (String × Option String) :=
  match Uri.segment? kind, name with
  | none, _ => none
  | some kind, none => some (kind, none)
  | some kind, some name => (Uri.segment? name).map fun name => (kind, some name)

/-! ## Bodies -/

/-- The type that a request states for its body; empty if it states none that is text. -/
def Request.contentType (r : Request) : String := (r.header? "content-type").getD ""

namespace Payload

def Format.read? : Format → String → Option Json
  | .json => Json.parse?
  | .yaml => Yaml.readJson?

/-- What a body stands for: nothing if it is blank, and otherwise the value that it is in the format of its
type. -/
inductive Decodes (contentType : String) (body : List UInt8) : Option Json → Prop
  | blank (blank : ∀ b ∈ body, isBlankByte b = true) : Decodes contentType body none
  | value {format : Format} {text : String} {v : Json} (written : ¬ ∀ b ∈ body, isBlankByte b = true)
      (known : format? contentType = some format) (decoded : Text.Utf8.decode? body = some text)
      (value : format.read? text = some v) : Decodes contentType body (some v)

variable {contentType : String} {body : List UInt8}

theorem read_eq (h : ¬ ∀ b ∈ body, isBlankByte b = true) :
    read contentType body =
      match format? contentType with
      | none => .error (.unsupportedMediaType s!"Expected JSON or YAML body, got {contentType}")
      | some format =>
        match (Text.Utf8.decode? body).bind format.read? with
        | some v => .ok (some v)
        | none => .error (.badRequest (match format with
          | .json => "Invalid JSON: malformed text"
          | .yaml => "Invalid YAML: malformed text")) := by
  rw [read, if_neg (by simpa using h)]
  cases format? contentType with
  | none => rfl
  | some format => cases format <;> rfl

theorem read_eq_ok_iff {payload : Option Json} :
    read contentType body = .ok payload ↔ Decodes contentType body payload := by
  by_cases hb : ∀ b ∈ body, isBlankByte b = true
  · rw [read, if_pos (by simpa using hb)]
    constructor
    · rintro ⟨⟩
      exact .blank hb
    · rintro (_ | hwritten)
      · rfl
      · exact absurd hb hwritten
  · rw [read_eq hb]
    constructor
    · intro h
      split at h
      next => cases h
      next format hformat =>
        split at h
        next v hv =>
          cases h
          obtain ⟨text, htext, hvalue⟩ := Option.bind_eq_some_iff.mp hv
          exact .value hb hformat htext hvalue
        next => cases h
    · rintro (hblank | ⟨-, hformat, htext, hvalue⟩)
      · exact absurd hblank hb
      · simp only [hformat, htext, Option.bind_some, hvalue]

theorem status_of_read {e : ApiError} (h : read contentType body = .error e) :
    e.status = if format? contentType = none then 415 else 400 := by
  have hb : ¬ ∀ b ∈ body, isBlankByte b = true := by
    intro hb
    rw [read_eq_ok_iff.mpr (.blank hb)] at h
    cases h
  rw [read_eq hb] at h
  split at h
  next hformat =>
    cases h
    rw [if_pos hformat]
    rfl
  next hformat =>
    split at h
    next => cases h
    next =>
      cases h
      rw [if_neg (by simp [hformat])]
      rfl

end Payload

/-! ## One operation -/

section
variable {r : Request} {verb : Verb} {kind : List Char} {name : Option (List Char)} {query : Query}

def Query.operation (query : Query) (verb : Verb) (kind : String) (name : Option String) (payload : Option Json) :
    ClusterGateway.Request :=
  { verb, kind, context := query.context, ns := query.ns, name := name.or query.name, payload }

/-- What comes of a request for an operation once its path has been read: a body is for the verbs that have
one, and no longer than it may be. -/
def Query.submit (query : Query) (r : Request) (verb : Verb) (kind : String) (name : Option String) :
    Except Response (Option ClusterGateway.Request) :=
  if hasBody verb = false then .ok (some (query.operation verb kind name none))
  else if Payload.maxSize < r.body.length then
    .error (.ofText 413 "Failed to buffer the request body: length limit exceeded")
  else match Payload.read r.contentType r.body with
    | .error e => .error e.response
    | .ok payload => .ok (some (query.operation verb kind name payload))

theorem operation_objects {k : String} (hq : Query.parse r.target.query = .ok query)
    (hk : Uri.segment? kind = some k) :
    operation r (.objects kind) = query.submit r (verbOf r.method) k none := by
  simp only [operation, hk, hq, Query.submit]
  by_cases hb : hasBody (verbOf r.method) = true
  · by_cases hl : Payload.maxSize < r.body.length
    · simp only [hb, hl, if_true, Bool.true_eq_false, if_false]
      rfl
    · simp only [hb, hl, if_true, Bool.true_eq_false, if_false, Request.contentType]
      cases Payload.read ((r.header? "content-type").getD "") r.body <;> rfl
  · simp only [hb, if_true]
    rfl

theorem operation_describe {k : String} (hq : Query.parse r.target.query = .ok query)
    (hk : Uri.segment? kind = some k) : operation r (.describe kind) = query.submit r .describe k none := by
  simp only [operation, hk, hq]
  rfl

theorem operation_object {name : List Char} {k n : String} (hq : Query.parse r.target.query = .ok query)
    (hk : Uri.segment? kind = some k) (hn : Uri.segment? name = some n) :
    operation r (.object kind name) = query.submit r .get k (some n) := by
  simp only [operation, hk, hn, hq]
  rfl

/-- The request comes to this route, which is behind the credentials and takes its method. -/
structure Request.Reaches (r : Request) (route : Route) : Prop where
  path : Route.ofPath? r.target.path = some route
  guarded : route.isPublic = false
  accepts : route.accepts r.method = true
  method : r.method ≠ "OPTIONS" ∧ r.method ≠ "HEAD"

theorem Request.Asks.exists_route (h : r.Asks verb kind name) (hq : Query.parse r.target.query = .ok query) :
    ∃ route, r.Reaches route ∧
      match segments? kind name with
      | none => ∃ segment, operation r route = .error (pathError segment)
      | some (kind, name) => operation r route = query.submit r verb kind name := by
  cases h with
  | objects method path segment nonempty free =>
    have hpath : Route.ofPath? r.target.path = some (.objects kind) := by
      rw [path, Route.ofPath?_objects segment nonempty free]
    simp only [List.mem_cons, Prod.mk.injEq, List.not_mem_nil, or_false] at method
    have hverb : verbOf r.method = verb := by
      rcases method with ⟨hm, rfl⟩ | ⟨hm, rfl⟩ | ⟨hm, rfl⟩ | ⟨hm, rfl⟩ <;> rw [hm] <;> rfl
    have hreaches : r.Reaches (.objects kind) := by
      rcases method with ⟨hm, -⟩ | ⟨hm, -⟩ | ⟨hm, -⟩ | ⟨hm, -⟩ <;>
        exact ⟨hpath, rfl, by rw [hm]; rfl, by simp [hm]⟩
    refine ⟨.objects kind, hreaches, ?_⟩
    cases hk : Uri.segment? kind with
    | none =>
      simp only [segments?, hk]
      exact ⟨"kind", by simp only [operation, hk]⟩
    | some k =>
      simp only [segments?, hk]
      rw [← hverb]
      exact operation_objects hq hk
  | describe method path segment =>
    have hword : '/' ∉ "describe".toList := by decide
    have hpath : Route.ofPath? r.target.path = some (.describe kind) := by
      rw [path]
      exact Route.ofPath?_object segment hword (by decide)
    refine ⟨.describe kind, ⟨hpath, rfl, by rw [method]; rfl, by simp [method]⟩, ?_⟩
    cases hk : Uri.segment? kind with
    | none =>
      simp only [segments?, hk]
      exact ⟨"kind", by simp only [operation, hk]⟩
    | some k =>
      simp only [segments?, hk]
      exact operation_describe hq hk
  | object method path segment segment' nonempty free =>
    rename_i name
    have hpath : Route.ofPath? r.target.path = some (.object kind name) := by
      rw [path, Route.ofPath?_object segment segment' nonempty, if_neg free]
    refine ⟨.object kind name, ⟨hpath, rfl, by rw [method]; rfl, by simp [method]⟩, ?_⟩
    cases hk : Uri.segment? kind with
    | none =>
      simp only [segments?, hk]
      exact ⟨"kind", by simp only [operation, hk]⟩
    | some k =>
      cases hn : Uri.segment? name with
      | none =>
        simp only [segments?, hk, hn]
        exact ⟨"name", by simp only [operation, hk, hn]⟩
      | some n =>
        simp only [segments?, hk, hn]
        exact operation_object hq hk hn

end

section
variable {σ κ : Type} [DecidableEq κ] (g : Settings) (f : Fleet σ κ)

/-- The answer to a request is the envelope of this operation, with the status of its outcome, and what the
operation has done is all that has been done. -/
structure AnswersAs (a : Auth) (r : Request) (p : Principal) (q : ClusterGateway.Request) (s : State σ κ) :
    Prop where
  state : (serve g f a r s).2 = (Gateway.execute g f p q s).2
  answer : match (Gateway.execute g f p q s).1 with
    | none => (serve g f a r s).1 = none
    | some envelope => ∃ response, (serve g f a r s).1 = some response ∧ response.body = .json envelope.toJson ∧
      response.status = match envelope with
        | .result _ => 200
        | .error fault => fault.category.httpStatus fault.code

/-- The request is refused with this status, with nothing started and nothing changed. -/
def Refuses (a : Auth) (r : Request) (s : State σ κ) (status : Nat) : Prop :=
  ∃ response, serve g f a r s = (some response, s) ∧ response.status = status

variable {g f} {a : Auth} {r : Request} {route : Route} {p : Principal} {s : State σ κ}

theorem serve_of_reaches (h : r.Reaches route) (hp : a.principal r = .ok p) :
    serve g f a r s = ((handle g f p r route s).1.map Cors.mark, (handle g f p r route s).2) := by
  rw [serve_of_ok h.path h.guarded h.method.1 hp, answerTo, if_pos h.accepts]
  simp only [if_neg h.method.2]

theorem serve_of_operation_error (h : r.Reaches route) (hp : a.principal r = .ok p) {response : Response}
    (ho : operation r route = .error response) : serve g f a r s = (some (Cors.mark response), s) := by
  rw [serve_of_reaches h hp]
  simp only [handle, ho]
  rfl

theorem refuses_of_operation (h : r.Reaches route) (hp : a.principal r = .ok p) {response : Response}
    (ho : operation r route = .error response) : Refuses g f a r s response.status :=
  ⟨_, serve_of_operation_error h hp ho, rfl⟩

theorem answersAs_of_operation (h : r.Reaches route) (hp : a.principal r = .ok p) {q : ClusterGateway.Request}
    (ho : operation r route = .ok (some q)) : AnswersAs g f a r p q s := by
  have hserve : serve g f a r s =
      (((Gateway.execute g f p q s).1.map envelopeResponse).map Cors.mark, (Gateway.execute g f p q s).2) := by
    rw [serve_of_reaches h hp]
    simp only [handle, ho]
  refine ⟨by rw [hserve], ?_⟩
  rw [hserve]
  cases (Gateway.execute g f p q s).1 with
  | none => rfl
  | some envelope => exact ⟨_, rfl, rfl, by cases envelope <;> rfl⟩

/-- **Over HTTP a request comes to one operation of the gateway, or to nothing.** With credentials and a query that
can be read it is refused as malformed, as too large or for its body, with nothing started, or its answer is the
envelope of the one operation that it asks for, with the status of the outcome. -/
theorem serve_refines_execute {verb : Verb} {kind : List Char} {name : Option (List Char)} {query : Query}
    (hp : a.principal r = .ok p) (h : r.Asks verb kind name) (hq : Query.parse r.target.query = .ok query)
    (s : State σ κ) :
    match segments? kind name with
    | none => Refuses g f a r s 400
    | some (kind, name) =>
      let ask (payload : Option Json) : ClusterGateway.Request :=
        { verb, kind, context := query.context, ns := query.ns, name := name.or query.name, payload }
      if hasBody verb = false then AnswersAs g f a r p (ask none) s
      else if Payload.maxSize < r.body.length then Refuses g f a r s 413
      else
        (∀ payload, Payload.Decodes r.contentType r.body payload → AnswersAs g f a r p (ask payload) s) ∧
        ((∀ payload, ¬ Payload.Decodes r.contentType r.body payload) →
          Refuses g f a r s (if Payload.format? r.contentType = none then 415 else 400)) := by
  obtain ⟨route, hreaches, hreads⟩ := h.exists_route hq
  cases hsegments : segments? kind name with
  | none =>
    rw [hsegments] at hreads
    obtain ⟨segment, hreads⟩ := hreads
    exact refuses_of_operation hreaches hp hreads
  | some read =>
    obtain ⟨kind, name⟩ := read
    simp only [hsegments, Query.submit] at hreads
    simp only
    split at hreads
    next hbody =>
      rw [if_pos hbody]
      exact answersAs_of_operation hreaches hp hreads
    next hbody =>
      rw [if_neg hbody]
      split at hreads
      next hlength =>
        rw [if_pos hlength]
        exact refuses_of_operation hreaches hp hreads
      next hlength =>
        rw [if_neg hlength]
        split at hreads
        next e he =>
          constructor
          · intro payload hpayload
            rw [Payload.read_eq_ok_iff.mpr hpayload] at he
            cases he
          · intro _
            rw [← Payload.status_of_read he]
            exact refuses_of_operation hreaches hp hreads
        next read hread =>
          constructor
          · intro payload hpayload
            obtain rfl : read = payload := Except.ok.inj (hread.symm.trans (Payload.read_eq_ok_iff.mpr hpayload))
            exact answersAs_of_operation hreaches hp hreads
          · intro hnone
            exact absurd (Payload.read_eq_ok_iff.mp hread) (hnone read)

theorem serve_refines_execute_of_delete :
    let pod : ResourceKind := ⟨"pod", [], ⟨"", "v1", "Pod", "pods"⟩, .namespaced, .uniform .reader, "", ""⟩
    let g : Settings := ⟨⟨[pod], by cbv⟩, ⟨[]⟩, none⟩
    let f := Simulated.fleet .echo
    let a : Auth := ⟨"secret", 1700000100⟩
    let token := Token.issue "secret" "alice" .user 1700000000 3600
    let r : Request := ⟨"DELETE", ⟨"/workload/po%64".toList, some "name=web-0&namespace=apps".toList⟩,
      [("authorization", "Bearer " ++ token)], [0x20, 0x0A]⟩
    let s : State Simulated.World Simulated.Client :=
      ⟨.start ⟨⟨"default", .inCluster⟩, [], by decide⟩ ⟨"default", 1⟩, .empty, 0, []⟩
    let query : Query := ⟨none, some "apps", some "web-0"⟩
    a.principal r = .ok ⟨"alice", .user⟩ ∧ r.Asks .delete "po%64".toList none ∧
      Query.parse r.target.query = .ok query ∧
      AnswersAs g f a r ⟨"alice", .user⟩ { verb := .delete, kind := "pod", ns := "apps", name := "web-0" } s := by
  intro pod g f a token r s query
  have hvalidate : Token.validate "secret" token 1700000100 = .ok ⟨"alice", .user, 1700003600, 1700000000⟩ :=
    Token.validate_sign "secret" ⟨by decide, by decide⟩ (by decide)
  have hp : a.principal r = .ok ⟨"alice", .user⟩ :=
    Auth.principal_eq_ok_iff.mpr ⟨token, _, Request.presents_of_validate hvalidate rfl, hvalidate, rfl⟩
  have hasks : r.Asks .delete "po%64".toList none := .objects (by decide) rfl (by decide) (by decide) (by decide)
  have hquery : Query.parse r.target.query = .ok query := by decide +kernel
  have hsegments : segments? "po%64".toList none = some ("pod", none) := by decide +kernel
  have hserve := serve_refines_execute (g := g) (f := f) hp hasks hquery s
  rw [hsegments] at hserve
  have hsmall : ¬ Payload.maxSize < r.body.length := by simp [Payload.maxSize, r]
  simp only [hasBody, Bool.true_eq_false, if_false, if_neg hsmall] at hserve
  obtain ⟨hanswers, -⟩ := hserve
  have hblank : ∀ b ∈ r.body, Payload.isBlankByte b = true := by simp [r, Payload.isBlankByte]
  exact ⟨hp, hasks, hquery, hanswers none (.blank hblank)⟩

theorem not_answersAs_of_text {response : Response} {text : String} (h : serve g f a r s = (some response, s))
    (ht : response.body = .text text) (q : ClusterGateway.Request) : ¬ AnswersAs g f a r p q s := by
  rintro ⟨-, hanswer⟩
  rw [h] at hanswer
  split at hanswer
  next => cases hanswer
  next =>
    obtain ⟨_, heq, hbody, -⟩ := hanswer
    cases heq
    rw [ht] at hbody
    cases hbody

/-- A blank body that is too long, and a kind that is no text, are refused in plain text. -/
theorem not_answersAs_of_oversized :
    let pod : ResourceKind := ⟨"pod", [], ⟨"", "v1", "Pod", "pods"⟩, .namespaced, .uniform .reader, "", ""⟩
    let g : Settings := ⟨⟨[pod], by cbv⟩, ⟨[]⟩, none⟩
    let f := Simulated.fleet .echo
    let a : Auth := ⟨"secret", 1700000100⟩
    let token := Token.issue "secret" "alice" .user 1700000000 3600
    let headers := [("authorization", "Bearer " ++ token)]
    let long : Request := ⟨"POST", ⟨"/workload/pod".toList, none⟩, headers, List.replicate 2097153 0x20⟩
    let odd : Request := ⟨"GET", ⟨"/workload/%FF".toList, none⟩, headers, []⟩
    let s : State Simulated.World Simulated.Client :=
      ⟨.start ⟨⟨"default", .inCluster⟩, [], by decide⟩ ⟨"default", 1⟩, .empty, 0, []⟩
    let alice : Principal := ⟨"alice", .user⟩
    (a.principal long = .ok alice ∧ long.Asks .create "pod".toList none ∧
      Query.parse long.target.query = .ok ⟨none, none, none⟩ ∧ (∀ b ∈ long.body, Payload.isBlankByte b = true) ∧
      ¬ AnswersAs g f a long alice { verb := .create, kind := "pod" } s) ∧
    (a.principal odd = .ok alice ∧ odd.Asks .list "%FF".toList none ∧
      Query.parse odd.target.query = .ok ⟨none, none, none⟩ ∧
      ∀ kind, ¬ AnswersAs g f a odd alice { verb := .list, kind } s) := by
  intro pod g f a token headers long odd s alice
  have hvalidate : Token.validate "secret" token 1700000100 = .ok ⟨"alice", .user, 1700003600, 1700000000⟩ :=
    Token.validate_sign "secret" ⟨by decide, by decide⟩ (by decide)
  have hp : ∀ r : Request, r.headers = headers → a.principal r = .ok alice := by
    intro r hr
    have hpresents : r.Presents token := Request.presents_of_validate hvalidate (by rw [hr]; rfl)
    exact Auth.principal_eq_ok_iff.mpr ⟨token, _, hpresents, hvalidate, rfl⟩
  have hquery : Query.parse long.target.query = .ok ⟨none, none, none⟩ := by decide +kernel
  have hlong : operation long (.objects "pod".toList) =
      .error (.ofText 413 "Failed to buffer the request body: length limit exceeded") := by
    have hlength : Payload.maxSize < long.body.length := by
      rw [List.length_replicate]
      decide
    have hkind : Uri.segment? "pod".toList = some "pod" := by decide +kernel
    rw [operation_objects hquery hkind, Query.submit, if_neg (by decide), if_pos hlength]
  have hodd : operation odd (.objects "%FF".toList) = .error (pathError "kind") := rfl
  have hreaches : long.Reaches (.objects "pod".toList) := ⟨by decide, rfl, by decide, by decide⟩
  have hreaches' : odd.Reaches (.objects "%FF".toList) := ⟨by decide, rfl, by decide, by decide⟩
  refine ⟨⟨hp long rfl, .objects (by decide) rfl (by decide) (by decide) (by decide), hquery, ?_, ?_⟩,
    hp odd rfl, .objects (by decide) rfl (by decide) (by decide) (by decide), hquery, ?_⟩
  · intro b hb
    rw [List.eq_of_mem_replicate hb]
    rfl
  · exact not_answersAs_of_text (serve_of_operation_error hreaches (hp long rfl) hlong) rfl _
  · intro kind
    exact not_answersAs_of_text (serve_of_operation_error hreaches' (hp odd rfl) hodd) rfl _

end

end Http

end ClusterGateway
