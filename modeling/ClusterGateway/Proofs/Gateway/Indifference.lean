import ClusterGateway.Proofs.Gateway.Indistinct
import ClusterGateway.Proofs.Gateway.Stages
import ClusterGateway.Proofs.Operation.Unplaced
import ClusterGateway.Simulated.Fleet

/-!
# Differences that make none

How a kind is spelled makes no difference to what becomes of a request, as long as the spellings find
the same row. Neither does a namespace, for a kind that has none.
-/

namespace ClusterGateway

namespace Request.Alike

variable {c : Catalog} {q q' : Request} {r : ResourceKind}

theorem of_lookup (p : Principal) {k k' : String} (h : c.lookup k = c.lookup k') :
    Alike c p { q with kind := k } { q with kind := k' } where
  verb := rfl
  context := rfl
  deadline := rfl
  gate := Catalog.authorize_congr h
  effect _ _ := rfl

theorem of_unplaced (p : Principal) (hk : c.lookup q.kind = .ok r) (hr : r.isNamespaced = false)
    (h : q'.withoutNamespace = q.withoutNamespace) : Alike c p q q' := by
  have hkind : q'.kind = q.kind := (congrArg Request.kind h :)
  have hverb : q'.verb = q.verb := (congrArg Request.verb h :)
  have hcontext : q'.context = q.context := (congrArg Request.context h :)
  have hdeadline : q'.deadline = q.deadline := (congrArg Request.deadline h :)
  refine ⟨hverb.symm, hcontext.symm, hdeadline.symm, ?_, fun kind ha => ?_⟩
  · rw [hkind, hverb]
  · obtain rfl : r = kind := Except.ok.inj (hk.symm.trans (Catalog.lookup_of_authorize ha))
    rw [← Effect.ofRequest_withoutNamespace hr, ← h, Effect.ofRequest_withoutNamespace hr]

end Request.Alike

namespace Gateway

variable {σ κ : Type} [DecidableEq κ] (g : Settings) (f : Fleet σ κ) (p : Principal) {r : ResourceKind}

/-- Any two spellings that find the same row come to the same, whatever is asked for and by whom. -/
theorem indistinct_spellings (q : Request) {k k' : String} (hk : g.catalog.lookup k = .ok r)
    (hk' : g.catalog.lookup k' = .ok r) : Indistinct g f p { q with kind := k } { q with kind := k' } :=
  indistinct_of_alike f (.of_lookup p (hk.trans hk'.symm))

theorem indistinct_spellings_of_alias :
    let volume : ResourceKind := ⟨"persistent_volume", ["pv"], ⟨"", "v1", "PersistentVolume", "persistentvolumes"⟩,
      .cluster, .readOnly .reader, "", ""⟩
    let g : Settings := ⟨⟨[volume], by cbv⟩, .ofList ["kube-system"], some 5000⟩
    let ann : Principal := ⟨"ann", .user⟩
    let delete : Request := { verb := .delete, kind := "", name := some "data" }
    g.catalog.lookup "\tPersistent-Volume " = .ok volume ∧ g.catalog.lookup "PV" = .ok volume ∧
      Indistinct g (Simulated.fleet .echo) ann { delete with kind := "\tPersistent-Volume " }
        { delete with kind := "PV" } := by
  intro volume g ann delete
  have hname : normalName "persistent_volume" = normalName "\tPersistent-Volume " := by cbv
  have halias : normalName "pv" = normalName "PV" := by cbv
  have hfound : ∀ name ∈ volume.names, ∀ k, normalName name = normalName k → g.catalog.lookup k = .ok volume :=
    fun name hn k h => g.catalog.lookup_eq_ok_iff.mpr (g.catalog.find?_eq_some_iff.mpr ⟨0, rfl, name, hn, h⟩)
  have hk := hfound "persistent_volume" (by decide) _ hname
  have hk' := hfound "pv" (by decide) _ halias
  exact ⟨hk, hk', indistinct_spellings g (Simulated.fleet .echo) ann delete hk hk'⟩

/-- For a kind without namespaces, requests that differ at most in the namespaces that they and the
metadata of their payloads name come to the same. -/
theorem indistinct_namespaces {q q' : Request} (hk : g.catalog.lookup q.kind = .ok r) (hr : r.isNamespaced = false)
    (h : q'.withoutNamespace = q.withoutNamespace) : Indistinct g f p q q' :=
  indistinct_of_alike f (.of_unplaced p hk hr h)

theorem indistinct_namespaces_of_malformed :
    let node : ResourceKind := ⟨"node", [], ⟨"", "v1", "Node", "nodes"⟩, .cluster, .uniform .admin, "", ""⟩
    let g : Settings := ⟨⟨[node], by cbv⟩, .ofList ["kube-system"], some 5000⟩
    let ann : Principal := ⟨"ann", .admin⟩
    let payload (metadata : List (String × Json)) : Option Json := some (.obj [("metadata", .obj metadata)])
    let bare : Request := { verb := .create, kind := "node", payload := payload [("name", .str "n1")] }
    let placed : Request := { bare with
      ns := some " ../ ", payload := payload [("name", .str "n1"), ("namespace", .arr [.ofNat 7])] }
    g.catalog.lookup "node" = .ok node ∧ node.isNamespaced = false ∧
      placed.withoutNamespace = bare.withoutNamespace ∧
      Indistinct g (Simulated.fleet .echo) ann bare placed := by
  intro node g ann payload bare placed
  have hk : g.catalog.lookup "node" = .ok node := by cbv
  have h : placed.withoutNamespace = bare.withoutNamespace := by cbv
  exact ⟨hk, rfl, h, indistinct_namespaces g (Simulated.fleet .echo) ann hk rfl h⟩

end Gateway

end ClusterGateway
