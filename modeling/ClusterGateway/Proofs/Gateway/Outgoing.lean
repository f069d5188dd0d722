import ClusterGateway.Proofs.Gateway.Origin
import ClusterGateway.Proofs.Operation.Addressed
import ClusterGateway.Proofs.Operation.Written
import ClusterGateway.Simulated.Fleet

/-!
# What leaves the gateway

In every interleaving of requests, an operation goes to an address that was checked, and a write
holds what was handed in. A request that runs alone is one of these interleavings.
-/

namespace ClusterGateway.Pool

variable {σ κ : Type} [DecidableEq κ] (g : Settings) (f : Fleet σ κ)

/-- Whoever asks for whatever, an operation is the one that was asked for, on the kind that was asked
for, and it goes to a checked address. -/
theorem operations_addressed (jobs : List Job) (s : State σ κ) (moves : List (Move κ)) :
    s.Adds (Event.IsEffectOf g jobs fun kind q e => e.Fits kind q.verb ∧ e.Addressed kind q)
      ((ofJobs jobs s).run g f moves).state := by
  refine operations_of_run g f (fun kind q e h => ⟨?_, ?_⟩) jobs s moves
  · exact Effect.plan_fits kind q e h
  · exact Effect.plan_addressed kind q e h

theorem operations_addressed_of_blanks :
    let pod : ResourceKind := ⟨"pod", [], ⟨"", "v1", "Pod", "pods"⟩, .namespaced, .uniform .reader, "", ""⟩
    let g : Settings := ⟨⟨[pod], by cbv⟩, ⟨[]⟩, none⟩
    let client : Simulated.Client := ⟨"default", 1⟩
    let s : State Simulated.World Simulated.Client :=
      ⟨.start ⟨⟨"default", .inCluster⟩, [], by decide⟩ client, .empty, 0, []⟩
    let ann : Principal := ⟨"ann", .reader⟩
    let jobs : List Job := [
      .execute ann { verb := .get, kind := "pod", ns := some " apps\n", name := some "\tweb-0 " },
      .execute ann { verb := .delete, kind := "pod", ns := some "apps", name := some "../secrets/admin" }]
    let moves : List (Move Simulated.Client) :=
      [.advance 0, .advance 1, .advance 0, .advance 1, .advance 1, .advance 1, .advance 0, .advance 0]
    let e : Event Simulated.Client := .called 0 client ⟨pod.api, some "apps", .get "web-0"⟩
    ((ofJobs jobs s).run g (Simulated.fleet .echo) moves).state.journal = [e] ∧
      e.IsEffectOf g jobs fun kind q e => e.Fits kind q.verb ∧ e.Addressed kind q := by
  intro pod g client s ann jobs moves e
  have hj : ((ofJobs jobs s).run g (Simulated.fleet .echo) moves).state.journal = [e] := by decide +kernel
  have hadds := operations_addressed g (Simulated.fleet .echo) jobs s moves
  exact ⟨hj, hadds.mem (hj : _ = [e] ++ s.journal) (List.mem_singleton_self e) rfl⟩

/-- What a creation or a replacement sends is the payload of a request, to the address that it tells:
no payload that does not suit the kind is ever sent, and in what is sent only the type and the
namespace may be other than they were. -/
theorem writes_what_was_submitted (jobs : List Job) (s : State σ κ) (moves : List (Move κ)) :
    s.Adds (Event.IsEffectOf g jobs fun kind q e => e.Fits kind q.verb ∧ e.WritesPayload kind q)
      ((ofJobs jobs s).run g f moves).state := by
  refine operations_of_run g f (fun kind q e h => ⟨?_, ?_⟩) jobs s moves
  · exact Effect.plan_fits kind q e h
  · exact Effect.plan_writes kind q e h

theorem writes_what_was_submitted_of_blanks :
    let pod : ResourceKind := ⟨"pod", [], ⟨"", "v1", "Pod", "pods"⟩, .namespaced, .uniform .reader, "", ""⟩
    let g : Settings := ⟨⟨[pod], by cbv⟩, ⟨[]⟩, none⟩
    let client : Simulated.Client := ⟨"default", 1⟩
    let s : State Simulated.World Simulated.Client :=
      ⟨.start ⟨⟨"default", .inCluster⟩, [], by decide⟩ client, .empty, 0, []⟩
    let ann : Principal := ⟨"ann", .reader⟩
    let metadata (ns : String) : Json :=
      .obj [("labels", .arr []), ("name", .str "web-0"), ("namespace", .str ns), ("resourceVersion", .str "7")]
    let payload : Json := .obj [("apiVersion", .null), ("metadata", metadata " apps "), ("spec", .ofNat 1)]
    let sent : Json :=
      .obj [("apiVersion", .str "v1"), ("kind", .str "Pod"), ("metadata", metadata "apps"), ("spec", .ofNat 1)]
    let jobs : List Job := [
      .execute ann { verb := .update, kind := "pod", ns := some "other", name := some " web-0", payload := some payload },
      .execute ann { verb := .create, kind := "pod", ns := some "apps", payload := some (.obj [("kind", .str "Node")]) }]
    let moves : List (Move Simulated.Client) :=
      [.advance 0, .advance 1, .advance 0, .advance 1, .advance 1, .advance 1, .advance 0, .advance 0]
    let e : Event Simulated.Client := .called 0 client ⟨pod.api, some "apps", .replace "web-0" sent⟩
    ((ofJobs jobs s).run g (Simulated.fleet .echo) moves).state.journal = [e] ∧
      e.IsEffectOf g jobs fun kind q e => e.Fits kind q.verb ∧ e.WritesPayload kind q := by
  intro pod g client s ann metadata payload sent jobs moves e
  have hj : ((ofJobs jobs s).run g (Simulated.fleet .echo) moves).state.journal = [e] := by decide +kernel
  have hadds := writes_what_was_submitted g (Simulated.fleet .echo) jobs s moves
  exact ⟨hj, hadds.mem (hj : _ = [e] ++ s.journal) (List.mem_singleton_self e) rfl⟩

end ClusterGateway.Pool
