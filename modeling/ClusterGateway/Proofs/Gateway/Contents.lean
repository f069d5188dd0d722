import ClusterGateway.Proofs.Gateway.Indistinct
import ClusterGateway.Proofs.Gateway.Stages
import ClusterGateway.Proofs.Operation.Contents
import ClusterGateway.Simulated.Fleet

/-!
# Contents that nothing tells

Two writes that differ in the contents of their payloads go the same way, up to the call. They are
refused for the same, or both are sent, and then what is told of either is what the cluster told, or
that it was too late.
-/

namespace ClusterGateway

variable {σ κ : Type}

namespace Effect

theorem conclude_of_write {c : Call} (hv : c.action.verb = .create ∨ c.action.verb = .update) (h : Hidden)
    (r : ResourceKind) : (call c).conclude h r = id := by
  obtain ⟨resource, ns, action⟩ := c
  cases action with
  | create body => rfl
  | replace name body => rfl
  | _ => rcases hv with hv | hv <;> cases hv

end Effect

theorem Reply.map_id {α : Type} (reply : Reply σ α) : reply.map id = reply := by
  cases reply <;> rfl

/-! ## What is told of a call -/

/-- The envelope of a call: the outcome that the cluster told, unless there is none in time. -/
def Fleet.told (f : Fleet σ κ) (deadline : Option Instant) (client : κ) (c : Call) (what : String)
    (s : State σ κ) : Option Envelope :=
  match (f.call client c s.world).1.awaitUntil deadline s.clock (f.call client c s.world).2 with
  | .answered outcome _ => some (.ofOutcome outcome)
  | .late _ => some (.error (.ofFailure (.expired what)))
  | .never => none

namespace Gateway

/-- From this state on all that is done is this one call, and its envelope is what was told of it. -/
structure Calls (f : Fleet σ κ) (deadline : Option Instant) (client : κ) (c : Call) (what : String) (s : State σ κ)
    (r : Option Envelope × State σ κ) : Prop where
  starts : s.Starts r.2 0 [.called 0 client c]
  told : r.1 = f.told deadline client c what s

/-- How two requests end that nothing tells apart before they are sent: the same for both, without an
operation and without a result, or after one call of each, to the same target, through the same client
and from the same state. -/
inductive Together (g : Settings) (f : Fleet σ κ) (p : Principal) (q : Request) (s : State σ κ) :
    Option Envelope × State σ κ → Option Envelope × State σ κ → Prop
  | refused {r} (starts : s.Starts r.2 1 []) (fails : ∀ v, r.1 ≠ some (.result v)) : Together g f p q s r r
  | sent {kind client c c' s₁ r r'} (allowed : g.catalog.authorize p q.kind q.verb = .ok kind)
    (starts : s.Starts s₁ 1 []) (target : c.SameTarget c')
    (left : Calls f (deadlineOf g q s) client c s!"{q.verb} {kind.name}" s₁ r)
    (right : Calls f (deadlineOf g q s) client c' s!"{q.verb} {kind.name}" s₁ r') : Together g f p q s r r'

variable {g : Settings} {f : Fleet σ κ} {p : Principal} {q q' : Request} {s s₁ : State σ κ}

theorem Together.of_failure {failure : Failure} (hs : s.Starts s₁ 1 []) :
    Together g f p q s (some (.error (.ofFailure failure)), s₁) (some (.error (.ofFailure failure)), s₁) :=
  .refused hs fun v hv => by cases hv

/-! ## Two writes -/

variable [DecidableEq κ]

theorem calls_of_perform (g : Settings) (f : Fleet σ κ) (deadline : Option Instant) (kind : ResourceKind)
    (verb : Verb) (context : ClusterContext) (client : κ) {c : Call}
    (hv : c.action.verb = .create ∨ c.action.verb = .update) (s : State σ κ) :
    let r := s.perform g f 0 deadline kind verb context client (.call c)
    Calls f deadline client c s!"{verb} {kind.name}" s (r.1.map .ofOutcome, r.2) := by
  refine ⟨s.starts_perform g f 0 deadline kind verb context client (.call c), ?_⟩
  -- what comes back of a write is handed on as it is
  have hconclude : (fun outcome : Outcome Json => outcome.map ((Effect.call c).conclude g.hidden kind)) = id := by
    funext outcome
    rw [Effect.conclude_of_write hv]
    cases outcome <;> rfl
  simp only [State.envelope_perform, Effect.start, hconclude, Reply.map_id, Fleet.told]
  split <;> next h => simp only [h]

theorem together_of_contents (h : q.DiffersInContents q') (s : State σ κ) :
    Together g f p q s (execute g f p q s) (execute g f p q' s) := by
  -- the stages up to the plan read nothing of the payload, so they are the same for both
  obtain ⟨hverb, hkind, hcontext, hdeadline⟩ := h.beside
  have hgate : g.catalog.authorize p q'.kind q'.verb = g.catalog.authorize p q.kind q.verb := by rw [hkind, hverb]
  have hselect : s.registry.contexts.select q'.context = s.registry.contexts.select q.context := by rw [hcontext]
  have huntil : deadlineOf g q' s = deadlineOf g q s := by rw [deadlineOf, deadlineOf, hdeadline]
  cases ha : g.catalog.authorize p q.kind q.verb with
  | error failure =>
    rw [execute_of_denied ha, execute_of_denied (hgate.trans ha)]
    exact .of_failure (.refl s 1)
  | ok kind =>
    have ha' := hgate.trans ha
    cases hs : s.registry.contexts.select q.context with
    | error failure =>
      rw [execute_of_unknown ha hs, execute_of_unknown ha' (hselect.trans hs)]
      exact .of_failure (.refl s 1)
    | ok context =>
      have hs' := hselect.trans hs
      have hfetch := s.starts_fetch f (deadlineOf g q s) context (s.registry.current context.id)
      rcases hf : s.fetch f (deadlineOf g q s) context (s.registry.current context.id) with
        ⟨_ | failure | client, s₁⟩ <;> rw [hf] at hfetch <;> have hf' := huntil ▸ hf
      · rw [execute_of_hung ha hs hf, execute_of_hung ha' hs' hf']
        exact .refused hfetch fun v hv => by cases hv
      · rw [execute_of_unresolved ha hs hf, execute_of_unresolved ha' hs' hf']
        exact .of_failure hfetch
      · rw [execute_of_resolved ha hs hf, execute_of_resolved ha' hs' hf', huntil, hverb]
        rcases Effect.ofRequest_of_contents h kind with ⟨failure, he, he'⟩ | ⟨c, c', he, he', htarget⟩
        · rw [he, he']
          exact .of_failure hfetch
        · have hverb : c.action.verb = q.verb := Effect.verb_of_ofRequest he
          have hc : c.action.verb = .create ∨ c.action.verb = .update := hverb ▸ h.verb
          have hc' : c'.action.verb = .create ∨ c'.action.verb = .update := htarget.operation ▸ hc
          rw [he, he']
          exact .sent ha hfetch htarget (calls_of_perform g f _ kind q.verb context client hc s₁)
            (calls_of_perform g f _ kind q.verb context client hc' s₁)

theorem alike_of_contents (h : q.DiffersInContents q')
    (hrefused : ∀ kind e, g.catalog.authorize p q.kind q.verb = .ok kind → Effect.ofRequest kind q ≠ .ok e) :
    q.Alike g.catalog p q' := by
  obtain ⟨hverb, hkind, hcontext, hdeadline⟩ := h.beside
  refine ⟨hverb.symm, hcontext.symm, hdeadline.symm, by rw [hkind, hverb], fun kind ha => ?_⟩
  rcases Effect.ofRequest_of_contents h kind with ⟨failure, he, he'⟩ | ⟨c, c', he, -, -⟩
  · rw [he, he']
  · exact absurd he (hrefused kind _ ha)

/-- **What a payload holds never shows in a refusal.** Two writes whose payloads have the same head are both
refused, with the same envelope and the same effects and nothing sent, or each makes one call to the same
target, and what is told of it is what the cluster told. -/
theorem refusals_ignore_contents (g : Settings) (f : Fleet σ κ) (p : Principal) {q q' : Request}
    (h : q.DiffersInContents q') :
    (∀ s, Together g f p q s (execute g f p q s) (execute g f p q' s)) ∧
      ((∀ kind e, g.catalog.authorize p q.kind q.verb = .ok kind → Effect.ofRequest kind q ≠ .ok e) →
        Indistinct g f p q q') :=
  ⟨together_of_contents h, fun hrefused => indistinct_of_alike f (alike_of_contents h hrefused)⟩

theorem refusals_ignore_contents_of_password :
    let secret : ResourceKind := ⟨"secret", [], ⟨"", "v1", "Secret", "secrets"⟩,
      .namespaced, .uniform .user, "", ""⟩
    let g : Settings := ⟨⟨[secret], by cbv⟩, ⟨[]⟩, none⟩
    let f := Simulated.fleet .echo
    let s : State Simulated.World Simulated.Client :=
      ⟨.start ⟨⟨"default", .inCluster⟩, [], by decide⟩ ⟨"default", 1⟩, .empty, 0, []⟩
    let ann : Principal := ⟨"ann", .user⟩
    let create (name : String) (data : Json) : Request := {
      verb := .create, kind := "secret", ns := some "apps"
      payload := some (.obj [("data", data), ("metadata", .obj [("labels", data), ("name", .str name)])]) }
    let password : Json := .obj [("password", .str "aHVudGVyMg==")]
    (∀ name, (create name password).DiffersInContents (create name .null)) ∧
      Indistinct g f ann (create "../db" password) (create "../db" .null) ∧
      (execute g f ann (create "../db" password) s).1 =
        some (.error ⟨.validation, "Validation failed: invalid object name '../db'", none, none⟩) ∧
      Together g f ann (create "db" password) s (execute g f ann (create "db" password) s)
        (execute g f ann (create "db" .null) s) := by
  intro secret g f s ann create password
  have hdiffers : ∀ name, (create name password).DiffersInContents (create name .null) := by
    intro name
    refine ⟨.inl rfl, _, _, rfl, rfl, ⟨_, _, rfl, rfl⟩, ?_, ?_⟩
    · simp [Manifest.typeFields, Json.Fields.get?]
    · simp [Manifest.headFields, Manifest.field?, Json.Fields.get?]
  have hk : g.catalog.lookup "secret" = .ok secret := by cbv
  have hplan : Effect.ofRequest secret (create "../db" password) =
      .error (.validation "invalid object name '../db'") := by decide +kernel
  have hrefused : ∀ kind e, g.catalog.authorize ann "secret" .create = .ok kind →
      Effect.ofRequest kind (create "../db" password) ≠ .ok e := by
    intro kind e ha he
    obtain rfl : secret = kind := Except.ok.inj (hk.symm.trans (Catalog.lookup_of_authorize ha))
    rw [hplan] at he
    cases he
  exact ⟨hdiffers, (refusals_ignore_contents g f ann (hdiffers "../db")).2 hrefused, by decide +kernel,
    (refusals_ignore_contents g f ann (hdiffers "db")).1 s⟩

end Gateway

end ClusterGateway
