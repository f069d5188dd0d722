import ClusterGateway.Client.Live
import ClusterGateway.Http.Serve
import ClusterGateway.Proofs.Gateway.Delivery
import ClusterGateway.Proofs.Gateway.Footprint

/-!
# Refusals by the API

Whoever is refused by the API of a cluster has reached it. So no answer of the API costs a context its
client, and the caller is told what the API said under the category and the status that belong to its code.
-/

namespace ClusterGateway

/-! ## Kinds of errors -/

namespace ClientError

inductive Kind where
  | api
  | serialization
  | requestBuilding
  | uri
  | utf8
  | lineLength
  | eventReading
  | discovery
  | tls
  | service
  | access
  deriving DecidableEq, Repr

def kind : ClientError → Kind
  | api _ => .api
  | malformed _ => .serialization
  | requestRejected _ | requestUnbuildable _ | requestUnserializable _ => .requestBuilding
  | invalidTarget _ | invalidPart _ => .uri
  | invalidText _ => .utf8
  | lineTooLong => .lineLength
  | events _ => .eventReading
  | invalidGroupVersion _ | missingKind _ | undiscovered _ => .discovery
  | tlsMissing => .tls
  | service _ => .service
  | unreachable _ => .access

end ClientError

namespace ApiStatus

/-- The failures that a refusal can be reported as, each with the codes that lead to it. -/
inductive Reports (a : ApiStatus) : Failure → Prop
  | notFound (h : a.code = 404) : Reports a (.notFound a.message)
  | alreadyExists (h : a.code = 409) (hr : a.reason = "AlreadyExists") : Reports a (.alreadyExists a.message)
  | conflict (h : a.code = 409) (hr : a.reason ≠ "AlreadyExists") : Reports a (.conflict a.message)
  | validation (h : a.code = 400 ∨ a.code = 422) : Reports a (.validation a.message)
  | clusterApi (h : a.code ∉ [400, 404, 409, 422]) : Reports a (.clusterApi a.code a.message)

theorem reports (a : ApiStatus) : a.Reports (ClientError.ofStatus a) := by
  unfold ClientError.ofStatus
  by_cases hmissing : a.code = 404
  · rw [if_pos hmissing]
    exact .notFound hmissing
  · rw [if_neg hmissing]
    by_cases hconflict : a.code = 409
    · rw [if_pos hconflict]
      by_cases hreason : a.reason = "AlreadyExists"
      · rw [if_pos hreason]
        exact .alreadyExists hconflict hreason
      · rw [if_neg hreason]
        exact .conflict hconflict hreason
    · rw [if_neg hconflict]
      by_cases hinvalid : a.code = 400 ∨ a.code = 422
      · rw [if_pos hinvalid]
        exact .validation hinvalid
      · rw [if_neg hinvalid]
        refine .clusterApi ?_
        rw [not_or] at hinvalid
        simp [hmissing, hconflict, hinvalid]

structure Told (a : ApiStatus) (fault : Fault) : Prop where
  verbatim : ∃ opening, fault.message = opening ++ a.message
  notFound : a.code = 404 → fault.category = .notFound
  alreadyExists : a.code = 409 → a.reason = "AlreadyExists" → fault.category = .alreadyExists
  conflict : a.code = 409 → a.reason ≠ "AlreadyExists" → fault.category = .conflict
  validation : a.code = 400 ∨ a.code = 422 → fault.category = .validation
  clusterApi : a.code ∉ [400, 404, 409, 422] → fault.category = .clusterApi ∧ fault.code = some a.code
  status : (Http.envelopeResponse (.error fault)).status =
    if a.code ∈ [401, 403, 404, 409, 429] then a.code.toNat else if a.code ∈ [400, 422] then 422 else 502

theorem told (a : ApiStatus) : a.Told (.ofFailure (ClientError.api a).failure) := by
  rw [ClientError.failure]
  have h := a.reports
  generalize ClientError.ofStatus a = failure at h
  have hstatus : (Http.envelopeResponse (.error (.ofFailure failure))).status =
      failure.category.httpStatus failure.code? := rfl
  cases h with
  | notFound h =>
    exact ⟨⟨"Resource not found: ", rfl⟩, fun _ => rfl, by simp [h], by simp [h], by simp [h], by simp [h],
      by rw [hstatus, h]; rfl⟩
  | alreadyExists h hr =>
    exact ⟨⟨"Resource already exists: ", rfl⟩, by simp [h], fun _ _ => rfl, fun _ hne => absurd hr hne, by simp [h],
      by simp [h], by rw [hstatus, h]; rfl⟩
  | conflict h hr =>
    exact ⟨⟨"Conflict: ", rfl⟩, by simp [h], fun _ he => absurd he hr, fun _ _ => rfl, by simp [h], by simp [h],
      by rw [hstatus, h]; rfl⟩
  | validation h =>
    rcases h with h | h
    · exact ⟨⟨"Validation failed: ", rfl⟩, by simp [h], by simp [h], by simp [h], fun _ => rfl, by simp [h],
        by rw [hstatus, h]; rfl⟩
    · exact ⟨⟨"Validation failed: ", rfl⟩, by simp [h], by simp [h], by simp [h], fun _ => rfl, by simp [h],
        by rw [hstatus, h]; rfl⟩
  | clusterApi h =>
    simp only [List.mem_cons, List.not_mem_nil, or_false, not_or] at h
    have hpassed : (Failure.clusterApi a.code a.message).category.httpStatus (some a.code) =
        if a.code = 401 ∨ a.code = 403 ∨ a.code = 429 then a.code.toNat else 502 := rfl
    exact ⟨⟨s!"Kubernetes API error ({a.code.toNat}): ", rfl⟩, by simp [h], by simp [h], by simp [h], by simp [h],
      fun _ => ⟨rfl, rfl⟩, by rw [hstatus, Failure.code?, hpassed]; simp [h]⟩

theorem isConnection_api (a : ApiStatus) : (ClientError.api a).failure.isConnection = false := by
  rw [ClientError.failure]
  have h := a.reports
  generalize ClientError.ofStatus a = failure at h
  cases h <;> rfl

end ApiStatus

/-! ## Answers that cannot be taken -/

namespace WireReply

/-- What can be wrong with an answer: it is no text, it refuses the request, or it is not what was asked
for. -/
inductive Flawed : ClientError → Prop
  | text (flaw : Text.Utf8.Flaw) : Flawed (.invalidText flaw)
  | refusal (a : ApiStatus) : Flawed (.api a)
  | content : Flawed unreadable

theorem Flawed.not_isConnection {e : ClientError} (h : Flawed e) : e.failure.isConnection = false := by
  cases h with
  | text flaw => rfl
  | refusal a => exact a.isConnection_api
  | content => rfl

variable {r : WireReply} {e : ClientError}

theorem flawed_of_accepted (h : r.accepted = .error e) : Flawed e := by
  unfold accepted text at h
  cases hdecode : Text.Utf8.decode r.body with
  | error flaw =>
    rw [hdecode] at h
    cases h
    exact .text flaw
  | ok s =>
    rw [hdecode] at h
    simp only [bind, Except.bind] at h
    split at h
    · cases h
      unfold refusal
      split
      · exact .refusal _
      · exact .refusal _
    · cases h

theorem flawed_of_object {resource : ApiResource} {v : Json} (h : object resource v = .error e) : Flawed e := by
  unfold object at h
  split at h
  · cases h
  · cases h
    exact .content

theorem flawed_of_deleted {v : Json} (h : deleted v = .error e) : Flawed e := by
  unfold deleted at h
  split at h
  · split at h
    · cases h
    · cases h
      exact .content
  · split at h
    · cases h
    · cases h
      exact .content

theorem flawed_of_mapM {resource : ApiResource} {items : List Json} (h : items.mapM (object resource) = .error e) :
    Flawed e := by
  induction items with
  | nil => cases h
  | cons item items ih =>
    rw [List.mapM_cons] at h
    cases hitem : object resource item with
    | error e' =>
      rw [hitem] at h
      cases h
      exact flawed_of_object hitem
    | ok v =>
      rw [hitem] at h
      cases hrest : items.mapM (object resource) with
      | error e' =>
        rw [hrest] at h
        cases h
        exact ih hrest
      | ok vs =>
        rw [hrest] at h
        cases h

theorem flawed_of_answer {c : Call} (h : answer c r = .error e) : Flawed e := by
  unfold answer at h
  cases haccepted : r.accepted with
  | error e' =>
    rw [haccepted] at h
    cases h
    exact flawed_of_accepted haccepted
  | ok s =>
    rw [haccepted] at h
    simp only [bind, Except.bind] at h
    split at h
    · cases h
      exact .content
    · split at h
      · split at h
        · cases h
          exact .content
        · split at h
          · next hitems =>
            cases h
            exact flawed_of_mapM hitems
          · cases h
      · exact flawed_of_object h
      · exact flawed_of_object h
      · exact flawed_of_object h
      · exact flawed_of_deleted h

end WireReply

/-! ## A call that is answered -/

theorem Reply.awaitUntil_map {α β σ : Type} {reply : Reply σ α} {deadline : Option Instant} {clock : Instant}
    {world world' : σ} {answer : α} (f : α → β) (h : reply.awaitUntil deadline clock world = .answered answer world') :
    (reply.map f).awaitUntil deadline clock world = .answered (f answer) world' := by
  cases reply with
  | now a =>
    cases h
    rfl
  | later wait finish =>
    simp only [Reply.map, awaitUntil] at h ⊢
    split at h
    · cases h
    · cases h
      rfl
  | never =>
    simp only [awaitUntil] at h
    split at h <;> cases h

variable {σ κ : Type} [DecidableEq κ]

namespace Gateway

section
variable (g : Settings) (f : Fleet σ κ) (p : Principal) (q : Request) (s s₁ : State σ κ)

/-- Alone, the request comes to the client in the state `s₁`, calls it, and has this answer before its
deadline. -/
def Hears (context : ClusterContext) (client : κ) (answer : Outcome Json) : Prop :=
  ∃ kind call world, g.catalog.authorize p q.kind q.verb = .ok kind ∧
    resolveWithin g f (deadlineOf g q s) q.context s = (some (.ok (.resolved context client)), s₁) ∧
    Effect.ofRequest kind q = .ok (.call call) ∧
    (f.call client call s₁.world).1.awaitUntil (deadlineOf g q s) s₁.clock (f.call client call s₁.world).2 =
      .answered answer world

variable {g f p q s s₁} {context : ClusterContext} {client : κ} {failure : Failure}

theorem Hears.execute_fst (h : Hears g f p q s s₁ context client (.error failure)) :
    (execute g f p q s).1 = some (.error (.ofFailure failure)) := by
  obtain ⟨kind, call, world, ha, hresolve, he, hanswer⟩ := h
  obtain ⟨hs, hf⟩ := fetch_of_resolved hresolve
  have hreply : (((Effect.call call).start f kind context client s₁.world).1.map fun outcome =>
      outcome.map ((Effect.call call).conclude g.hidden kind)).awaitUntil (deadlineOf g q s) s₁.clock
        ((Effect.call call).start f kind context client s₁.world).2 = .answered (.error failure) world :=
    Reply.awaitUntil_map _ hanswer
  rw [execute_of_resolved ha hs hf, he]
  simp only [State.envelope_perform, hreply]
  rfl

theorem Hears.registry (h : Hears g f p q s s₁ context client (.error failure)) (hf : failure.isConnection = false) :
    (execute g f p q s).2.registry = s₁.registry ∧
      s₁.registry.slots (s₁.registry.current context.id) = .ready client := by
  have hkept : (execute g f p q s).1.any Envelope.lost = false := by
    rw [h.execute_fst, Option.any_some]
    exact (Envelope.lost_ofOutcome (.error failure)).trans hf
  obtain ⟨kind, -, -, ha, hresolve, -, -⟩ := h
  obtain ⟨hs, hfetch⟩ := fetch_of_resolved hresolve
  have hregistry := registry_of_resolved ha hs hfetch
  rw [hkept, ← State.registry_of_fetch hfetch] at hregistry
  refine ⟨hregistry, ?_⟩
  rw [State.registry_of_fetch hfetch]
  exact Registry.slots_put_self _ _ _

end

end Gateway

namespace Pool

variable {g : Settings} {f : Fleet σ κ} {p : Pool σ κ} {i : Nat} {context : ClusterContext} {client : κ}
  {failure : Failure}

def Heard (p : Pool σ κ) (i : Nat) (context : ClusterContext) (client : κ) (failure : Failure) : Prop :=
  ∃ t, p.tasks[i]? = some t ∧ t.stage = .answered context client (.error failure)

omit [DecidableEq κ] in
theorem Heard.lt_length (h : p.Heard i context client failure) : i < p.tasks.length := by
  obtain ⟨t, ht, -⟩ := h
  exact (List.getElem?_eq_some_iff.mp ht).1

inductive Hears (f : Fleet σ κ) (p : Pool σ κ) (i : Nat) (context : ClusterContext) (client : κ)
    (failure : Failure) : Prop
  | atOnce {t : Task σ κ} {kind : ResourceKind} {q : Request} {call : Call} (ht : p.tasks[i]? = some t)
      (hst : t.stage = .resolved (.operate kind q) context client) (he : Effect.ofRequest kind q = .ok (.call call))
      (hr : (f.call client call p.state.world).1 = .now (.error failure))
  | afterwards {t : Task σ κ} {what : String} {finish : σ → Outcome Json × σ} (ht : p.tasks[i]? = some t)
      (hst : t.stage = .calling what context client (some finish)) (ha : (finish p.state.world).1 = .error failure)

theorem Hears.heard (h : p.Hears f i context client failure) :
    (p.step g f (.advance i)).Heard i context client failure ∧
      (p.step g f (.advance i)).state.registry = p.state.registry := by
  cases h with
  | @atOnce t kind q call ht hst he hr =>
    have hi : i < p.tasks.length := (List.getElem?_eq_some_iff.mp ht).1
    have hadvance := t.advance_operating (g := g) (f := f) (s := p.state) hst
    rw [Task.operate_eq, he] at hadvance
    simp only [Task.perform_eq, Effect.start, hr] at hadvance
    simp only [Pool.step, ht, hadvance, Heard]
    exact ⟨⟨_, List.getElem?_set_self hi, rfl⟩, rfl⟩
  | @afterwards t what finish ht hst ha =>
    have hi : i < p.tasks.length := (List.getElem?_eq_some_iff.mp ht).1
    simp only [Pool.step, ht, Task.advance, hst, Heard]
    refine ⟨⟨_, List.getElem?_set_self hi, ?_⟩, rfl⟩
    rw [← ha]
    rfl

theorem Heard.stage_after (h : p.Heard i context client failure) {moves : List (Move κ)} (n : Nat) {t : Task σ κ}
    (ht : (p.after g f moves n).tasks[i]? = some t) :
    t.stage = .answered context client (.error failure) ∨ t.stage = .finished (.error failure) := by
  refine after_induction (P := fun _ t => t.stage = .answered context client (.error failure) ∨
    t.stage = .finished (.error failure)) (fun t ht => ?_) (fun _ _ h => h) (fun _ t _ _ h => ?_) (fun _ t h => ?_) n ht
  · obtain ⟨u, hu, hst⟩ := h
    cases hu.symm.trans ht
    exact .inl hst
  · rcases h with h | h
    · refine .inr ?_
      simp only [Task.advance, h, Task.answer]
      rfl
    · exact .inr (by simp only [Task.advance, h])
  · rcases h with h | h
    · exact .inl (by simp only [Task.abandon, h])
    · exact .inr (by simp only [Task.abandon, h])

theorem Heard.result_after (h : p.Heard i context client failure) {moves : List (Move κ)} {n : Nat}
    {result : Outcome (Answer κ)} (hr : (p.after g f moves n).results[i]? = some (some result)) :
    result = .error failure := by
  rw [results, List.getElem?_map, Option.map_eq_some_iff] at hr
  obtain ⟨t, ht, hr⟩ := hr
  rcases h.stage_after n ht with hst | hst
  · simp only [Task.result?, hst] at hr
    cases hr
  · simp only [Task.result?, hst] at hr
    exact (Option.some.inj hr).symm

theorem Heard.state_after (h : p.Heard i context client failure) (hf : failure.isConnection = false)
    {moves : List (Move κ)} {n : Nat} (hm : moves[n]? = some (.advance i)) :
    (p.after g f moves (n + 1)).state = (p.after g f moves n).state := by
  have hi : i < (p.after g f moves n).tasks.length := by
    rw [length_after]
    exact h.lt_length
  have ht : (p.after g f moves n).tasks[i]? = some (p.after g f moves n).tasks[i] := List.getElem?_eq_getElem hi
  rw [after_advance hm ht]
  rcases h.stage_after n ht with hst | hst
  · simp only [Task.advance, hst, Task.answer, hf]
    rfl
  · simp only [Task.advance, hst]

end Pool

namespace Gateway

/-- **The API that answers has been reached.** Whatever it refuses a call with, the failure is none of the
connection: the caller is told it under the category and the status of the code, and neither alone nor among
others does the request lose the client that it was made on. -/
theorem api_refusals_keep_client (g : Settings) (f : Fleet σ κ) (a : ApiStatus) :
    let failure := (ClientError.api a).failure
    let fault := Fault.ofFailure failure
    failure.isConnection = false ∧ a.Told fault ∧
      (∀ p q s s₁ context client, Hears g f p q s s₁ context client (.error failure) →
        let r := execute g f p q s
        r.1 = some (.error fault) ∧ r.2.registry = s₁.registry ∧
          s₁.registry.slots (s₁.registry.current context.id) = .ready client) ∧
      (∀ (p : Pool σ κ) i context client, p.Hears f i context client failure →
        let p' := p.step g f (.advance i)
        p'.state.registry = p.state.registry ∧ ∀ moves n,
          (moves[n]? = some (.advance i) → (p'.after g f moves (n + 1)).state = (p'.after g f moves n).state) ∧
          ∀ result, (p'.after g f moves n).results[i]? = some (some result) → result = .error failure) ∧
      (∀ r c e, WireReply.answer c r = .error e → e.failure.isConnection = false) ∧
      ∀ e : ClientError, e.failure.isConnection = true ↔
        e.kind ∉ [.api, .serialization, .requestBuilding, .uri, .utf8, .lineLength, .eventReading, .discovery] := by
  intro failure fault
  have hf : failure.isConnection = false := a.isConnection_api
  refine ⟨hf, a.told, fun p q s s₁ context client h => ⟨h.execute_fst, h.registry hf⟩, fun p i context client h => ?_,
    fun r c e h => (WireReply.flawed_of_answer h).not_isConnection, fun e => ?_⟩
  · obtain ⟨hheard, hregistry⟩ := h.heard (g := g)
    exact ⟨hregistry, fun moves n => ⟨hheard.state_after hf, fun result hr => hheard.result_after hr⟩⟩
  · cases e with
    | api a => simp [ClientError.kind, a.isConnection_api]
    | _ => simp [ClientError.kind, ClientError.failure, Failure.isConnection]

theorem api_refusals_keep_client_of_quota :
    let node : ResourceKind := ⟨"node", [], ⟨"", "v1", "Node", "nodes"⟩, .cluster, .uniform .reader, "", ""⟩
    let g : Settings := ⟨⟨[node], by cbv⟩, ⟨[]⟩, none⟩
    let f := Simulated.fleet .echo
    let a : ApiStatus := ⟨"Failure", "too many requests", "TooManyRequests", 429⟩
    let first : ClusterContext := ⟨"default", .inCluster⟩
    let client : Simulated.Client := ⟨"default", 1⟩
    let world : Simulated.World :=
      { Simulated.World.empty with built := 1, callFailures := [(ClientError.api a).failure] }
    let s : State Simulated.World Simulated.Client := ⟨.start ⟨first, [], by decide⟩ client, world, 0, []⟩
    let list : Request := { verb := .list, kind := "node" }
    let r := Gateway.execute g f ⟨"ann", .reader⟩ list s
    let p := (Pool.ofJobs [.execute ⟨"ann", .reader⟩ list] s).run g f [.advance 0, .advance 0]
    (Hears g f ⟨"ann", .reader⟩ list s s first client (.error (ClientError.api a).failure) ∧
      r.1 = some (.error ⟨.clusterApi, "Kubernetes API error (429): too many requests", none, some 429⟩) ∧
      r.2.registry.slots (r.2.registry.current "default") = .ready client) ∧
    p.Hears f 0 first client (ClientError.api a).failure ∧
      (p.step g f (.advance 0)).state.registry = p.state.registry := by
  intro node g f a first client world s list r p
  obtain ⟨-, -, halone, hamong, -⟩ := api_refusals_keep_client g f a
  let call : Call := ⟨node.api, none, .list⟩
  have hallowed : g.catalog.authorize ⟨"ann", .reader⟩ list.kind list.verb = .ok node := by decide +kernel
  have hresolved : resolveWithin g f none none s = (some (.ok (.resolved first client)), s) :=
    resolveWithin_of_ready g f rfl (by decide +kernel) none
  have hcall : Effect.ofRequest node list = .ok (.call call) := by decide +kernel
  have hfault : Fault.ofFailure (ClientError.api a).failure =
      ⟨.clusterApi, "Kubernetes API error (429): too many requests", none, some 429⟩ := by decide +kernel
  have hears : Hears g f ⟨"ann", .reader⟩ list s s first client (.error (ClientError.api a).failure) :=
    ⟨node, call, { world with callFailures := [] }, hallowed, hresolved, hcall, rfl⟩
  obtain ⟨henvelope, hregistry, hkept⟩ := halone _ _ _ _ _ _ hears
  rw [hfault] at henvelope
  rw [← hregistry] at hkept
  have hp : p = ⟨[⟨0, .execute ⟨"ann", .reader⟩ list, none, 0, .resolved (.operate node list) first client⟩], s⟩ := by
    have harrive : (Task.start 0 (.execute ⟨"ann", .reader⟩ list) : Task _ _).arrive g s =
        ⟨0, .execute ⟨"ann", .reader⟩ list, none, 0, .resolving (.operate node list) first ⟨"default", 0⟩⟩ := by
      simp only [Task.arrive, Task.start, hallowed]
      rfl
    have hfound : s.registry.slots ⟨"default", 0⟩ = .ready client := by decide +kernel
    have hfirst : (Pool.ofJobs [.execute ⟨"ann", .reader⟩ list] s).step g f (.advance 0) =
        ⟨[⟨0, .execute ⟨"ann", .reader⟩ list, none, 0, .resolving (.operate node list) first ⟨"default", 0⟩⟩], s⟩ := by
      rw [← harrive]
      rfl
    simp only [p, Pool.run, List.foldl_cons, List.foldl_nil, hfirst]
    simp only [Pool.step, List.getElem?_cons_zero, Task.advance, hfound]
    rfl
  have htold : p.Hears f 0 first client (ClientError.api a).failure :=
    hp ▸ .atOnce rfl rfl hcall rfl
  exact ⟨⟨hears, henvelope, hkept⟩, htold, (hamong p 0 first client htold).1⟩

end Gateway

end ClusterGateway
