import ClusterGateway.Proofs.Gateway.Stages
import ClusterGateway.Proofs.Simulated.Store

/-!
# Objects on clusters that keep them

A cluster keeps an object under its resource, its namespace and its name. Whoever creates an object
finds it there, and whoever deletes one finds nothing the next time, since all verbs come to the
same address and a request that succeeded leaves its client where the next one finds it.
-/

namespace ClusterGateway

variable {σ κ : Type}

namespace Fleet

/-- Every call from here is answered before the deadline. -/
def Prompt (f : Fleet σ κ) (deadline : Option Instant) (s : State σ κ) : Prop :=
  ∀ client c, (f.call client c s.world).1.InTime deadline s.clock

end Fleet

/-! ## One request after another -/

namespace Effect

variable {kind : ResourceKind} {q : Request} {e : Effect} {c : Call}

theorem call_of_create (hv : q.verb = .create) (h : ofRequest kind q = .ok (.call c)) :
    ∃ ns body, c = ⟨kind.api, ns, .create body⟩ := by
  have hplan := (ofRequest_eq_ok_iff.mp h).2
  rw [plan, hv] at hplan
  obtain ⟨payload, ns, body, -, -, -, -, he⟩ := planCreate_eq_ok_iff.mp hplan
  cases he
  exact ⟨ns, body, rfl⟩

theorem call_of_delete (hv : q.verb = .delete) (h : ofRequest kind q = .ok (.call c)) :
    ∃ ns name, c = ⟨kind.api, ns, .delete name⟩ := by
  have hplan := (ofRequest_eq_ok_iff.mp h).2
  rw [plan, hv] at hplan
  obtain ⟨name, ns, -, -, he⟩ := planDelete_eq_ok_iff.mp hplan
  cases he
  exact ⟨ns, name, rfl⟩

theorem eq_get_of_key? {k : ObjectKey} (hv : e.verb = .get) (hk : e.key? kind = some k) :
    e = .call ⟨k.resource, k.ns, .get k.name⟩ := by
  cases e with
  | describe ns name => cases hv
  | call c =>
    obtain ⟨resource, ns, action⟩ := c
    cases action with
    | get name =>
      cases hk
      rfl
    | _ => cases hv

end Effect

namespace State

variable {g : Settings} {f : Fleet σ κ} {deadline : Option Instant} {kind : ResourceKind} {verb : Verb}
  {context : ClusterContext} {client : κ} {slot : SlotId} {s s' : State σ κ}

/-- The client that whoever asks for the context is given at once. -/
def Offers (s : State σ κ) (id : Option String) (client : κ) : Prop :=
  ∃ context, s.registry.contexts.select id = .ok context ∧
    s.registry.slots (s.registry.current context.id) = .ready client

theorem cases_of_fetch (h : s.fetch f deadline context slot = (some (.ok client), s')) :
    (s.registry.slots slot = .ready client ∧ s' = s) ∨
      ((f.connect context s.world).1.await? (f.connect context s.world).2 = some (.ok client, s'.world) ∧
        s'.registry = s.registry.put slot (.ready client)) := by
  cases fetched_of_eq h with
  | found hslot => exact .inl ⟨hslot, rfl⟩
  | settled _ hreply => exact .inr ⟨Reply.await?_of_awaitUntil hreply, rfl⟩

theorem slot_of_fetch (h : s.fetch f deadline context slot = (some (.ok client), s')) :
    s'.registry.slots slot = .ready client ∧ s'.registry.contexts = s.registry.contexts ∧
      s'.registry.generation = s.registry.generation := by
  rcases cases_of_fetch h with ⟨hslot, rfl⟩ | ⟨-, hregistry⟩
  · exact ⟨hslot, rfl, rfl⟩
  · rw [hregistry]
    exact ⟨Registry.slots_put_self _ _ _, rfl, rfl⟩

theorem up_of_fetch {up : σ → Prop} {object : κ → ObjectKey → σ → Option Json} (hf : f.Keeps up object)
    (hup : up s.world) (h : s.fetch f deadline context slot = (some (.ok client), s')) : up s'.world := by
  rcases cases_of_fetch h with ⟨-, rfl⟩ | ⟨hanswer, -⟩
  · exact hup
  · exact hf.connected hup hanswer

variable [DecidableEq κ]

theorem answer?_of_perform {ticket : Nat} {c : Call} {v : Json}
    (h : s.perform g f ticket deadline kind verb context client (.call c) = (some (.ok v), s')) :
    ∃ a, f.answer? client c s.world = some (.ok a, s'.world) ∧ s'.registry = s.registry ∧
      (Effect.call c).conclude g.hidden kind a = v := by
  unfold perform at h
  simp only at h
  split at h
  · next outcome world hawait =>
    obtain ⟨ho, rfl⟩ := Prod.mk.inj h
    obtain rfl : outcome = .ok v := Option.some.inj ho
    have hanswer := Reply.await?_of_awaitUntil hawait
    rw [Reply.await?_map] at hanswer
    obtain ⟨⟨answer, w⟩, ha, he⟩ := Option.map_eq_some_iff.mp hanswer
    obtain ⟨hanswer, rfl⟩ := Prod.mk.inj he
    cases answer with
    | error failure => cases hanswer
    | ok a => exact ⟨a, ha, rfl, Except.ok.inj hanswer⟩
  · cases h
  · cases h

theorem perform_of_inTime (g : Settings) (ticket : Nat) (kind : ResourceKind) (verb : Verb) (context : ClusterContext)
    (c : Call) (h : (f.call client c s.world).1.InTime deadline s.clock) :
    ∃ outcome world, f.answer? client c s.world = some (outcome, world) ∧
      (s.perform g f ticket deadline kind verb context client (.call c)).1 =
        some (outcome.map ((Effect.call c).conclude g.hidden kind)) := by
  obtain ⟨a, w, hanswer, hawait⟩ := (h.map fun outcome =>
    outcome.map ((Effect.call c).conclude g.hidden kind)).awaitUntil (f.call client c s.world).2
  rw [Reply.await?_map] at hanswer
  obtain ⟨⟨outcome, world⟩, ha, he⟩ := Option.map_eq_some_iff.mp hanswer
  cases he
  refine ⟨outcome, w, ha, ?_⟩
  rw [perform_fst]
  simp only [Effect.start, hawait]

end State

namespace Gateway

variable [DecidableEq κ] {g : Settings} {f : Fleet σ κ} {p : Principal} {q : Request} {s s' : State σ κ}
  {kind : ResourceKind} {context : ClusterContext} {client : κ} {v : Json}

theorem exists_of_execute (h : execute g f p q s = (some (.result v), s')) :
    ∃ kind context client s₁ e, g.catalog.authorize p q.kind q.verb = .ok kind ∧
      s.registry.contexts.select q.context = .ok context ∧
      s.fetch f (deadlineOf g q s) context (s.registry.current context.id) = (some (.ok client), s₁) ∧
      Effect.ofRequest kind q = .ok e ∧
      s₁.perform g f 0 (deadlineOf g q s) kind q.verb context client e = (some (.ok v), s') := by
  cases ha : g.catalog.authorize p q.kind q.verb with
  | error failure =>
    rw [execute_of_denied ha] at h
    cases h
  | ok kind =>
    cases hs : s.registry.contexts.select q.context with
    | error failure =>
      rw [execute_of_unknown ha hs] at h
      cases h
    | ok context =>
      rcases hf : s.fetch f (deadlineOf g q s) context (s.registry.current context.id) with
        ⟨_ | failure | client, s₁⟩
      · rw [execute_of_hung ha hs hf] at h
        cases h
      · rw [execute_of_unresolved ha hs hf] at h
        cases h
      · rw [execute_of_resolved ha hs hf] at h
        cases he : Effect.ofRequest kind q with
        | error failure =>
          rw [he] at h
          cases h
        | ok e =>
          simp only [he] at h
          refine ⟨kind, context, client, s₁, e, rfl, rfl, hf, he, ?_⟩
          rcases hp : s₁.perform g f 0 (deadlineOf g q s) kind q.verb context client e with ⟨_ | failure | a, s₂⟩
          · rw [hp] at h
            cases h
          · rw [hp] at h
            cases h
          · rw [hp] at h
            cases h
            rfl

theorem called_of_execute {up : σ → Prop} {object : κ → ObjectKey → σ → Option Json} (hf : f.Keeps up object)
    (hup : up s.world) (h : execute g f p q s = (some (.result v), s')) (hverb : q.verb ≠ .describe) :
    ∃ kind client c a world, g.catalog.authorize p q.kind q.verb = .ok kind ∧ s'.Offers q.context client ∧
      Effect.ofRequest kind q = .ok (.call c) ∧ up world ∧ f.answer? client c world = some (.ok a, s'.world) := by
  obtain ⟨kind, context, client, s₁, e, ha, hs, hfetch, he, hperform⟩ := exists_of_execute h
  obtain ⟨hslot, hcontexts, hgeneration⟩ := State.slot_of_fetch hfetch
  cases e with
  | describe ns name => exact absurd (Effect.verb_of_ofRequest he).symm hverb
  | call c =>
    obtain ⟨a, hanswer, hregistry, -⟩ := State.answer?_of_perform hperform
    refine ⟨kind, client, c, a, s₁.world, ha, ⟨context, ?_, ?_⟩, he, State.up_of_fetch hf hup hfetch, hanswer⟩
    · rw [hregistry, hcontexts, hs]
    · rw [hregistry, Registry.current, hgeneration]
      exact hslot

theorem execute_of_offers {c : Call} (ha : g.catalog.authorize p q.kind q.verb = .ok kind)
    (hoffers : s.Offers q.context client) (he : Effect.ofRequest kind q = .ok (.call c)) (hprompt : f.Prompt (deadlineOf g q s) s) :
    ∃ outcome world, f.answer? client c s.world = some (outcome, world) ∧
      (execute g f p q s).1 = some (.ofOutcome (outcome.map ((Effect.call c).conclude g.hidden kind))) := by
  obtain ⟨context, hs, hslot⟩ := hoffers
  have hfetch : s.fetch f (deadlineOf g q s) context (s.registry.current context.id) = (some (.ok client), s) := by
    simp only [State.fetch, hslot]
  obtain ⟨outcome, world, hanswer, hperform⟩ :=
    State.perform_of_inTime g 0 kind q.verb context c (hprompt client c)
  refine ⟨outcome, world, hanswer, ?_⟩
  rw [execute_of_resolved ha hs hfetch]
  simp only [he, hperform]
  rfl

/-- All verbs come to the same object. The requests for an object that was sent to be created are
accepted and go to the address that it was sent to. So on clusters that keep objects under their keys
whoever created an object gets what is kept of it, and whoever deleted one is told, when asking for
the same again, that there is none. -/
theorem verbs_share_object (g : Settings) {up : σ → Prop} {object : κ → ObjectKey → σ → Option Json}
    (hf : f.Keeps up object) :
    (∀ kind q q' payload name resource ns body, q.payload = some payload →
      Manifest.metadata? payload "name" = some name →
      Effect.ofRequest kind q = .ok (.call ⟨resource, ns, .create body⟩) →
      Effect.Returns kind payload ns name body q' → kind.supports q'.verb = true →
      ∃ e, Effect.ofRequest kind q' = .ok e ∧ e.verb = q'.verb ∧ e.key? kind = some ⟨resource, ns, name⟩) ∧
    (∀ p q s s' v payload name, up s.world → q.verb = .create → q.payload = some payload →
      Manifest.metadata? payload "name" = some name → execute g f p q s = (some (.result v), s') →
      ∃ kind ns body client stored, g.catalog.authorize p q.kind q.verb = .ok kind ∧
        Effect.ofRequest kind q = .ok (.call ⟨kind.api, ns, .create body⟩) ∧
        s'.Offers q.context client ∧ object client ⟨kind.api, ns, name⟩ s'.world = some stored ∧
        ∀ p' q', q'.verb = .get → q'.context = q.context → g.catalog.authorize p' q'.kind q'.verb = .ok kind →
          Effect.Returns kind payload ns name body q' → f.Prompt (deadlineOf g q' s') s' →
          (execute g f p' q' s').1 = some (.result stored)) ∧
    ∀ p q s s' v, up s.world → q.verb = .delete → execute g f p q s = (some (.result v), s') →
      f.Prompt (deadlineOf g q s') s' → ∃ text, (execute g f p q s').1 = some (.error (.ofFailure (.notFound text))) := by
  refine ⟨fun kind q q' payload name resource ns body hp hname hcreate hq hverb =>
    Effect.ofRequest_of_returns hp hname hcreate hq hverb, ?_, ?_⟩
  · intro p q s s' v payload name hup hv hp hname h
    obtain ⟨kind, client, c, a, world, hallowed, hoffers, he, hworld, hanswer⟩ :=
      called_of_execute hf hup h (by rw [hv]; decide)
    obtain ⟨ns, body, rfl⟩ := Effect.call_of_create hv he
    -- the name in the body is the one in the payload, so the object is kept under it
    have hbody := (Effect.creates_of_ofRequest hp hname he).1.name_body
    obtain ⟨hup', stored, hstored⟩ := hf.created hworld hbody hanswer
    refine ⟨kind, ns, body, client, stored, hallowed, he, hoffers, hstored,
      fun p' q' hv' hcontext ha hq hprompt => ?_⟩
    -- the kind has the verb, or the request would not have passed the gate
    have hsupports := Catalog.supports_of_authorize ha
    obtain ⟨e, he', hverb, hkey⟩ := Effect.ofRequest_of_returns hp hname he hq hsupports
    obtain rfl := Effect.eq_get_of_key? (hverb.trans hv') hkey
    obtain ⟨outcome, w, hget, hexecute⟩ := execute_of_offers ha (hcontext ▸ hoffers) he' hprompt
    obtain rfl := hf.got hup' hstored hget
    exact hexecute
  · intro p q s s' v hup hv h hprompt
    obtain ⟨kind, client, c, a, world, ha, hoffers, he, hworld, hanswer⟩ :=
      called_of_execute hf hup h (by rw [hv]; decide)
    -- both times it is the same request, so the same plan and the same key
    obtain ⟨ns, name, rfl⟩ := Effect.call_of_delete hv he
    obtain ⟨hup', hmissing⟩ := hf.deleted hworld hanswer
    obtain ⟨outcome, w, hagain, hexecute⟩ := execute_of_offers ha hoffers he hprompt
    obtain ⟨text, rfl⟩ := hf.missing hup' hmissing hagain
    exact ⟨text, hexecute⟩

theorem verbs_share_object_of_blanks :
    let pod : ResourceKind := ⟨"pod", [], ⟨"", "v1", "Pod", "pods"⟩, .namespaced, .uniform .reader, "", ""⟩
    let g : Settings := ⟨⟨[pod], by cbv⟩, ⟨[]⟩, none⟩
    let f := Simulated.fleet .echo
    let s : State Simulated.World Simulated.Client :=
      ⟨.start ⟨⟨"default", .inCluster⟩, [], by decide⟩ ⟨"default", 1⟩, .empty, 0, []⟩
    let ann : Principal := ⟨"ann", .reader⟩
    let payload : Json := .obj [("metadata", .obj [("name", .str "web-0"), ("namespace", .str " apps ")])]
    let create : Request := { verb := .create, kind := "pod", payload := some payload }
    let get : Request := { verb := .get, kind := "pod", ns := some "apps", name := some "web-0" }
    let delete : Request := { verb := .delete, kind := "pod", payload := some payload }
    let created := (execute g f ann create s).2
    let deleted := (execute g f ann delete created).2
    (∃ client stored, Simulated.object client ⟨pod.api, some "apps", "web-0"⟩ created.world = some stored ∧
      (execute g f ann get created).1 = some (.result stored)) ∧
      ∃ text, (execute g f ann delete deleted).1 = some (.error (.ofFailure (.notFound text))) := by
  intro pod g f s ann payload create get delete created deleted
  obtain ⟨-, hcreate, hdelete⟩ := verbs_share_object g (Simulated.fleet_keeps .echo)
  have hprompt : ∀ s' : State Simulated.World Simulated.Client, s'.world.IsUp → ∀ deadline, f.Prompt deadline s' :=
    fun s' hup deadline client c => Simulated.inTime_of_isUp hup client c deadline s'.clock
  have hup : s.world.IsUp := ⟨rfl, rfl⟩
  have hupCreated : created.world.IsUp := by
    unfold Simulated.World.IsUp
    decide +kernel
  have hupDeleted : deleted.world.IsUp := by
    unfold Simulated.World.IsUp
    decide +kernel
  constructor
  · let stored : Json := .obj [("apiVersion", .str "v1"), ("kind", .str "Pod"), ("metadata", .obj
      [("name", .str "web-0"), ("namespace", .str "apps"), ("resourceVersion", .str "1")])]
    have hfirst : execute g f ann create s = (some (.result stored), created) :=
      Prod.ext (by decide +kernel) rfl
    obtain ⟨kind, ns, body, client, found, hkind, hplan, -, hfound, hget⟩ :=
      hcreate ann create s created stored payload "web-0" hup rfl rfl (by decide +kernel) hfirst
    have hpod : ∀ verb, g.catalog.authorize ann "pod" verb = .ok pod := by
      intro verb
      cases verb <;> decide +kernel
    obtain rfl : pod = kind := Except.ok.inj ((hpod .create).symm.trans hkind)
    have hsent : Effect.ofRequest pod create = .ok (.call ⟨pod.api, some "apps", .create (.obj
        [("apiVersion", .str "v1"), ("kind", .str "Pod"), ("metadata", .obj
          [("name", .str "web-0"), ("namespace", .str "apps")])])⟩) := by decide +kernel
    cases hsent.symm.trans hplan
    refine ⟨client, found, hfound, hget ann get rfl rfl (hpod .get) ?_ (hprompt created hupCreated _)⟩
    exact .named (.inl rfl) rfl fun _ => rfl
  · have hfirst : execute g f ann delete created = (some (.result (.obj [("kind", .str "pod"), ("name", .str "web-0"),
        ("namespace", .str "apps"), ("status", .str "deleted")])), deleted) :=
      Prod.ext (by decide +kernel) rfl
    exact hdelete ann delete created deleted _ hupCreated rfl hfirst (hprompt deleted hupDeleted _)

end Gateway

end ClusterGateway
