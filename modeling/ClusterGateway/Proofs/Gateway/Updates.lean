import ClusterGateway.Proofs.Operation.Written
import ClusterGateway.Proofs.Simulated.Versions

/-!
# No update is lost

An update is sent with the version that its payload carries, so of several updates that start from
one version of an object the cluster accepts one.
-/

namespace ClusterGateway.Pool

variable {σ κ π : Type}

def Updates (jobs : List Job) (i : Nat) (payload : Option Json) : Prop :=
  ∃ pr q, jobs[i]? = some (.execute pr q) ∧ q.verb = .update ∧ q.payload = payload

section
variable [DecidableEq κ] (g : Settings) (f : Fleet σ κ) (V : Versioning σ κ π) (jobs : List Job) (s : State σ κ)
  (moves : List (Move κ))

/-- The job is an update of the object whose payload carries the version, and it has succeeded. -/
structure Replaced (i : Nat) (o : π) (t : String) : Prop where
  update : ∃ object, Updates jobs i (some object) ∧ Manifest.field? object "resourceVersion" = some (.str t)
  called : ∃ n client resource ns name body,
    (ofJobs jobs s).Notes g f moves n (.called i client ⟨resource, ns, .replace name body⟩) ∧
      V.place client ⟨resource, ns, name⟩ = o
  succeeded : ∃ v, ((ofJobs jobs s).run g f moves).results[i]? = some (some (.ok (.value v)))

end

section
variable [DecidableEq κ] {g : Settings} {f : Fleet σ κ} {V : Versioning σ κ π} {jobs : List Job} {s : State σ κ}
  {moves : List (Move κ)} {i n : Nat}

theorem replace_of_begins {payload : Option Json} {kind : ResourceKind} {context : ClusterContext} {client : κ}
    {e : Effect} (hu : Updates jobs i payload)
    (hb : (ofJobs jobs s).Begins g f moves i n kind context client e) :
    ∃ object t ns name body, payload = some object ∧ t ≠ "" ∧
      Manifest.field? object "resourceVersion" = some (.str t) ∧
      e = .call ⟨kind.api, ns, .replace name body⟩ ∧ Manifest.field? body "resourceVersion" = some (.str t) := by
  obtain ⟨pr, q, hjob, hverb, hpayload⟩ := hu
  obtain ⟨pr', q', hjob', -, hr⟩ := hb.request
  rw [hjob] at hjob'
  cases hjob'
  have hplan := (Effect.ofRequest_eq_ok_iff.mp hr).2
  rw [Effect.plan, hverb] at hplan
  obtain ⟨object, ns, body, name, t, hq, hprepare, -, -, hversion, -, rfl⟩ := Effect.planUpdate_eq_ok_iff.mp hplan
  obtain ⟨hv, hne⟩ := Manifest.metadata?_eq_some_iff.mp hversion
  have hsame := (Manifest.prepare_eq_ok hprepare).2.2.metadata "resourceVersion" (by decide)
  exact ⟨object, t, ns, name, body, hpayload ▸ hq, hne, hsame ▸ hv, rfl, hv⟩

theorem replaced_of_succeeded {payload : Option Json} {v : Json} (hu : Updates jobs i payload)
    (hv : ((ofJobs jobs s).run g f moves).results[i]? = some (some (.ok (.value v)))) :
    ∃ o t, Replaced g f V jobs s moves i o t := by
  obtain ⟨n, kind, context, client, e, m, a, hc, -⟩ := completes_of_finished jobs s hv
  obtain ⟨object, t, ns, name, body, rfl, -, ht, rfl, -⟩ := replace_of_begins hu hc.begins
  exact ⟨_, t, ⟨object, hu, ht⟩, ⟨n, client, kind.api, ns, name, body, hc.begins.notes, rfl⟩, ⟨v, hv⟩⟩

variable (hf : f.Guards V) (hs : V.up s.world)
include hf hs

theorem Completes.swaps {kind : ResourceKind} {context : ClusterContext} {client : κ} {resource : ApiResource}
    {ns : Option String} {name t : String} {body a : Json} {m : Nat} {outcome : Outcome Json}
    (h : (ofJobs jobs s).Completes g f moves i n kind context client (.call ⟨resource, ns, .replace name body⟩) m
      outcome) (ha : outcome = .ok a) (ht : Manifest.field? body "resourceVersion" = some (.str t)) :
    ∃ k, moves[k]? = some (.advance i) ∧ V.Swaps (V.place client ⟨resource, ns, name⟩) t
      ((ofJobs jobs s).after g f moves k).state.world ((ofJobs jobs s).after g f moves (k + 1)).state.world := by
  have hup := fun k => (goesOn_after g hf.goesOn jobs hs moves k).world
  have hreplace := hf.replace client resource ns name (hup n) ht
  cases h with
  | atOnce hb hr =>
    refine ⟨n, hb.move, ?_⟩
    rw [hb.world]
    exact hreplace.now a (ha ▸ hr)
  | @afterwards _ wait first hb hr hlt hm hw =>
    rcases hreplace.later wait first hr _ a (hup m) ha with hswaps | hswaps
    · refine ⟨n, hb.move, ?_⟩
      rw [hb.world]
      exact hswaps
    · refine ⟨m, hm, ?_⟩
      rw [hw]
      exact hswaps

theorem Replaced.swaps {o : π} {t : String} (h : Replaced g f V jobs s moves i o t) :
    ∃ k, moves[k]? = some (.advance i) ∧ V.Swaps o t ((ofJobs jobs s).after g f moves k).state.world
      ((ofJobs jobs s).after g f moves (k + 1)).state.world := by
  obtain ⟨object, hu, ht⟩ := h.update
  obtain ⟨v, hv⟩ := h.succeeded
  obtain ⟨n, kind, context, client, e, m, a, hc, -⟩ := completes_of_finished jobs s hv
  -- the call that was noted is the one that has come to an end
  obtain ⟨k, client', resource, ns, name, body, hnotes, rfl⟩ := h.called
  obtain ⟨kind', context', hb⟩ := begins_of_called hnotes
  obtain ⟨rfl, rfl, rfl, rfl, rfl⟩ := hb.unique hc.begins
  obtain ⟨object', t', ns', name', body', hsame, -, ht', he, hbody⟩ := replace_of_begins hu hb
  cases hsame
  cases he
  obtain rfl : t' = t := Json.str.inj (Option.some.inj (ht'.symm.trans ht))
  exact hc.swaps hf hs rfl hbody

theorem not_swaps_later {o : π} {t : String} {k m : Nat} (hkm : k < m)
    (h : V.Swaps o t ((ofJobs jobs s).after g f moves k).state.world
      ((ofJobs jobs s).after g f moves (k + 1)).state.world) (w : σ) :
    ¬ V.Swaps o t ((ofJobs jobs s).after g f moves m).state.world w := by
  have hup := (goesOn_after g hf.goesOn jobs hs moves k).world
  have hevolves := fun {k m} => world_goesOn g hf.goesOn jobs hs moves (n := k) (m := m)
  intro hagain
  exact h.version?_ne hf hup (hevolves (Nat.le_succ k)) (hevolves hkm) hagain.had

/-- Whatever else is going on, of the updates of one object that start from one version one succeeds at
most. An update is sent with the very version that its payload carries, and one without a version is
not sent at all. -/
theorem no_lost_update (jobs : List Job) (moves : List (Move κ)) :
    (∀ o t i j, Replaced g f V jobs s moves i o t → Replaced g f V jobs s moves j o t → i = j) ∧
    ∀ i payload, Updates jobs i payload →
      (∀ v, ((ofJobs jobs s).run g f moves).results[i]? = some (some (.ok (.value v))) →
        ∃ o t, Replaced g f V jobs s moves i o t) ∧
      (∀ n client (c : Call), (ofJobs jobs s).Notes g f moves n (.called i client c) →
        ∃ object t name body, payload = some object ∧ c.action = .replace name body ∧
          Manifest.field? object "resourceVersion" = some (.str t) ∧
          Manifest.field? body "resourceVersion" = some (.str t)) ∧
      ((∀ t, t ≠ "" → payload.bind (Manifest.field? · "resourceVersion") ≠ some (.str t)) →
        ∀ n kind context client (e : Effect), ¬ (ofJobs jobs s).Notes g f moves n (e.event i kind context client)) := by
  constructor
  · intro o t i j hi hj
    obtain ⟨k, hk, hswaps⟩ := hi.swaps hf hs
    obtain ⟨m, hm, hswaps'⟩ := hj.swaps hf hs
    -- the later of two replacements would find the version gone, and a move is of one task
    rcases Nat.lt_trichotomy k m with hlt | rfl | hlt
    · exact absurd hswaps' (not_swaps_later hf hs hlt hswaps _)
    · cases hk.symm.trans hm
      rfl
    · exact absurd hswaps (not_swaps_later hf hs hlt hswaps' _)
  · intro i payload hu
    refine ⟨fun v hv => replaced_of_succeeded hu hv, ?_, ?_⟩
    · intro n client c hnotes
      obtain ⟨kind, context, hb⟩ := begins_of_called hnotes
      obtain ⟨object, t, ns, name, body, hpayload, -, ht, he, hbody⟩ := replace_of_begins hu hb
      cases he
      exact ⟨object, t, name, body, hpayload, rfl, ht, hbody⟩
    · intro hnone n kind context client e hnotes
      obtain ⟨kind, context, client, e, hb⟩ := begins_of_event hnotes
      obtain ⟨object, t, ns, name, body, rfl, hne, ht, -⟩ := replace_of_begins hu hb
      exact hnone t hne ht

omit hf hs

theorem no_lost_update_of_three :
    let pod : ResourceKind := ⟨"pod", [], ⟨"", "v1", "Pod", "pods"⟩, .namespaced, .uniform .reader, "", ""⟩
    let g : Settings := ⟨⟨[pod], by cbv⟩, ⟨[]⟩, none⟩
    let f := Simulated.fleet .echo
    let V := Simulated.versioning
    let object (version : Json) : Json := .obj [("metadata",
      .obj [("name", .str "web-0"), ("namespace", .str "apps"), ("resourceVersion", version)])]
    let s : State Simulated.World Simulated.Client :=
      ⟨.start ⟨⟨"default", .inCluster⟩, [], by decide⟩ ⟨"default", 1⟩,
        Simulated.World.empty.putStore "default" (Simulated.Store.empty.seed "pods" (object .null)), 0, []⟩
    let update (name : String) (version : Json) : Job :=
      .execute ⟨name, .reader⟩ { verb := .update, kind := "pod", payload := some (object version) }
    let jobs : List Job := [update "ann" (.str "1"), update "bob" (.str "1"), update "eve" (.ofNat 1)]
    let moves : List (Move Simulated.Client) := [.advance 0, .advance 1, .advance 2, .advance 0, .advance 1, .advance 2,
      .advance 2, .advance 1, .advance 0, .advance 0, .advance 1, .advance 2]
    let written (version : String) : Json := .obj [("apiVersion", .str "v1"), ("kind", .str "Pod"), ("metadata",
      .obj [("name", .str "web-0"), ("namespace", .str "apps"), ("resourceVersion", .str version)])]
    let place : String × Simulated.Key := ("default", ⟨"pods", "apps", "web-0"⟩)
    let why := "Operation cannot be fulfilled on pods \"web-0\": the object has been modified"
    f.Guards V ∧ V.up s.world ∧ Replaced g f V jobs s moves 1 place "1" ∧
      ((ofJobs jobs s).run g f moves).results[0]? = some (some (.error (.conflict why))) ∧
      ((ofJobs jobs s).run g f moves).results[1]? = some (some (.ok (.value (written "2")))) ∧
      (∀ i, Replaced g f V jobs s moves i place "1" → i = 1) ∧
      ∀ n kind context client (e : Effect), ¬ (ofJobs jobs s).Notes g f moves n (e.event 2 kind context client) := by
  intro pod g f V object s update jobs moves written place why
  have hf : f.Guards V := Simulated.fleet_guards .echo
  have hs : V.up s.world := Simulated.up_putStore Simulated.up_empty _ (Simulated.Store.numbered_empty.seed _ _)
  obtain ⟨hone, hupdates⟩ := no_lost_update (g := g) hf hs jobs moves
  have hcalled : (ofJobs jobs s).Notes g f moves 7
      (.called 1 ⟨"default", 1⟩ ⟨pod.api, some "apps", .replace "web-0" (written "1")⟩) := by decide +kernel
  have hresult : ((ofJobs jobs s).run g f moves).results[1]? = some (some (.ok (.value (written "2")))) := by
    decide +kernel
  have hreplaced : Replaced g f V jobs s moves 1 place "1" :=
    ⟨⟨object (.str "1"), ⟨_, _, rfl, rfl, rfl⟩, rfl⟩, ⟨7, _, _, _, _, _, hcalled, rfl⟩, ⟨_, hresult⟩⟩
  obtain ⟨-, -, hsilent⟩ := hupdates 2 (some (object (.ofNat 1))) ⟨_, _, rfl, rfl, rfl⟩
  refine ⟨hf, hs, hreplaced, by decide +kernel, hresult, fun i hi => hone _ _ _ _ hi hreplaced, hsilent fun t _ h => ?_⟩
  cases h

end

end ClusterGateway.Pool
