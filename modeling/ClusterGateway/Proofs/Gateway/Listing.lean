import ClusterGateway.Proofs.Gateway.Delivery
import ClusterGateway.Proofs.Gateway.Storage
import ClusterGateway.Proofs.Operation.Accepted
import ClusterGateway.Proofs.Operation.Shown
import ClusterGateway.Simulated.Fleet

/-!
# Lists without hidden namespaces

A list that succeeds is what the fleet answered to it, without the objects of hidden namespaces and
without any other change.
-/

namespace ClusterGateway

theorem Effect.eq_list_of_ofRequest {r : ResourceKind} {q : Request} {e : Effect} (hverb : q.verb = .list)
    (h : ofRequest r q = .ok e) : ∃ ns, Address.listNamespace r q.ns = .ok ns ∧ e = .call ⟨r.api, ns, .list⟩ := by
  have hplan := (ofRequest_eq_ok_iff.mp h).2
  simp only [plan, hverb, planList_eq_ok_iff] at hplan
  obtain ⟨ns, hns, rfl⟩ := hplan
  exact ⟨ns, hns, rfl⟩

variable {σ κ : Type} [DecidableEq κ] {g : Settings} {namespaces : List String} (hg : g.hidden = .ofList namespaces)
  (f : Fleet σ κ)
include hg

namespace Pool

theorem listed_of_finished {jobs : List Job} {s : State σ κ} {moves : List (Move κ)} {i : Nat} {p : Principal}
    {q : Request} {v : Json} (hjob : jobs[i]? = some (.execute p q)) (hverb : q.verb = .list)
    (hv : ((ofJobs jobs s).run g f moves).results[i]? = some (some (.ok (.value v)))) :
    ∃ kind context client ns answer, g.catalog.authorize p q.kind .list = .ok kind ∧
      (ofJobs jobs s).Answered g f moves i (.execute p q) kind context client (.call ⟨kind.api, ns, .list⟩)
        (.ok answer) ∧
      Listed namespaces kind answer v := by
  obtain ⟨kind, context, client, e, answer, ⟨n, hperforms, hcollects⟩, rfl⟩ :=
    delivers_of_finished g f jobs s moves hjob hv
  obtain ⟨p', q', hsame, ha, he⟩ := hperforms.request
  cases hsame
  obtain ⟨ns, -, rfl⟩ := Effect.eq_list_of_ofRequest hverb he
  rw [hverb] at ha
  refine ⟨kind, context, client, ns, answer, ha, ⟨n, hperforms, hcollects⟩, ?_⟩
  rw [hg]
  exact Effect.listed_conclude namespaces kind kind.api ns answer

end Pool

namespace Gateway

theorem listed_of_execute {p : Principal} {q : Request} {s s' : State σ κ} {v : Json} (hverb : q.verb = .list)
    (h : execute g f p q s = (some (.result v), s')) :
    ∃ kind context client s₁ ns answer, g.catalog.authorize p q.kind .list = .ok kind ∧
      s.registry.contexts.select q.context = .ok context ∧
      s.fetch f (deadlineOf g q s) context (s.registry.current context.id) = (some (.ok client), s₁) ∧
      f.answer? client ⟨kind.api, ns, .list⟩ s₁.world = some (.ok answer, s'.world) ∧
      Listed namespaces kind answer v := by
  obtain ⟨kind, context, client, s₁, e, ha, hs, hfetch, he, hperform⟩ := exists_of_execute h
  obtain ⟨ns, -, rfl⟩ := Effect.eq_list_of_ofRequest hverb he
  obtain ⟨answer, hanswer, -, rfl⟩ := State.answer?_of_perform hperform
  rw [hverb] at ha
  refine ⟨kind, context, client, s₁, ns, answer, ha, hs, hfetch, hanswer, ?_⟩
  rw [hg]
  exact Effect.listed_conclude namespaces kind kind.api ns answer

/-- Alone and in every interleaving, a request to list that ends with a value has called the fleet for
a list of its kind, and the value is the answer to this call less the objects of the namespaces to be
hidden. -/
theorem lists_hide_namespaces :
    (∀ jobs s moves i p q v, jobs[i]? = some (.execute p q) → q.verb = .list →
      ((Pool.ofJobs jobs s).run g f moves).results[i]? = some (some (.ok (.value v))) →
      ∃ kind context client ns answer, g.catalog.authorize p q.kind .list = .ok kind ∧
        (Pool.ofJobs jobs s).Answered g f moves i (.execute p q) kind context client (.call ⟨kind.api, ns, .list⟩)
          (.ok answer) ∧
        Listed namespaces kind answer v) ∧
    ∀ p q s s' v, q.verb = .list → execute g f p q s = (some (.result v), s') →
      ∃ kind context client s₁ ns answer, g.catalog.authorize p q.kind .list = .ok kind ∧
        s.registry.contexts.select q.context = .ok context ∧
        s.fetch f (deadlineOf g q s) context (s.registry.current context.id) = (some (.ok client), s₁) ∧
        f.answer? client ⟨kind.api, ns, .list⟩ s₁.world = some (.ok answer, s'.world) ∧
        Listed namespaces kind answer v := by
  constructor
  · intro jobs s moves i p q v hjob hverb hv
    exact Pool.listed_of_finished hg f hjob hverb hv
  · intro p q s s' v hverb h
    exact listed_of_execute hg f hverb h

omit hg

theorem lists_hide_namespaces_of_blank :
    let pod : ResourceKind := ⟨"pod", [], ⟨"", "v1", "Pod", "pods"⟩, .namespaced, .uniform .reader, "", ""⟩
    let namespaces := ["vault", " ", "apps "]
    let g : Settings := ⟨⟨[pod], by cbv⟩, .ofList namespaces, none⟩
    let f := Simulated.fleet .echo
    let object (ns : Json) : Json := .obj [("metadata", .obj [("namespace", ns)])]
    let key (name : String) : Simulated.Key := ⟨"pods", "", name⟩
    let store : Simulated.Store := ⟨4, [(key "a", object (.str "apps")), (key "b", object (.str "vault")),
      (key "c", object (.arr [.str "vault"])), (key "d", object (.str " "))]⟩
    let s : State Simulated.World Simulated.Client :=
      ⟨.start ⟨⟨"default", .inCluster⟩, [], by decide⟩ ⟨"default", 1⟩, Simulated.World.empty.putStore "default" store,
        0, []⟩
    let ann : Principal := ⟨"ann", .reader⟩
    let list : Request := { verb := .list, kind := "pod" }
    let jobs : List Job := [.resolve none, .execute ann list]
    let moves : List (Move Simulated.Client) := [.advance 1, .advance 0, .advance 1, .advance 1, .advance 0, .advance 1]
    let v : Json := .arr [object (.str "apps"), object (.arr [.str "vault"]), object (.str " ")]
    (∃ kind context client ns answer, g.catalog.authorize ann list.kind .list = .ok kind ∧
      (Pool.ofJobs jobs s).Answered g f moves 1 (.execute ann list) kind context client (.call ⟨kind.api, ns, .list⟩)
        (.ok answer) ∧
      Listed namespaces kind answer v) ∧
    ∃ kind context client s₁ ns answer, g.catalog.authorize ann list.kind .list = .ok kind ∧
      s.registry.contexts.select list.context = .ok context ∧
      s.fetch f (deadlineOf g list s) context (s.registry.current context.id) = (some (.ok client), s₁) ∧
      f.answer? client ⟨kind.api, ns, .list⟩ s₁.world = some (.ok answer, (execute g f ann list s).2.world) ∧
      Listed namespaces kind answer v := by
  intro pod namespaces g f object key store s ann list jobs moves v
  have hg : g.hidden = .ofList namespaces := rfl
  have hjob : jobs[1]? = some (.execute ann list) := rfl
  have hv : ((Pool.ofJobs jobs s).run g f moves).results[1]? = some (some (.ok (.value v))) := by decide +kernel
  have halone : (execute g f ann list s).1 = some (.result v) := by decide +kernel
  obtain ⟨hlisted, hlisted'⟩ := lists_hide_namespaces hg f
  exact ⟨hlisted jobs s moves 1 ann list v hjob rfl hv, hlisted' ann list s _ v rfl (Prod.ext halone rfl)⟩

end Gateway

end ClusterGateway
