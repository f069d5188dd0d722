import ClusterGateway.Config.Load
import ClusterGateway.Proofs.Config.ContextIds
import ClusterGateway.Proofs.Gateway.Ownership
import ClusterGateway.Proofs.Resource.Served

/-!
# Starting from a configuration

Ids are compared twice, first with each other when a configuration is checked, and then with those that are
registered already when the gateway is built. A configuration that passes the first check passes the second, so
only the client of the default context can be missing.
-/

namespace ClusterGateway

/-! ## The first id that comes again -/

/-- Up to this id the list has no id twice, and this one it has before. -/
def IsFirstRepeat (ids : List String) (id : String) : Prop :=
  ∃ before after, ids = before ++ id :: after ∧ before.Nodup ∧ id ∈ before

theorem IsFirstRepeat.not_nodup {ids : List String} {id : String} (h : IsFirstRepeat ids id) : ¬ ids.Nodup := by
  obtain ⟨before, after, rfl, -, hid⟩ := h
  intro hnodup
  exact (List.nodup_append.mp hnodup).2.2 id hid id List.mem_cons_self rfl

namespace Contexts

theorem firstRepeat?_eq_some_iff {seen ids : List String} (hseen : seen.Nodup) {id : String} :
    firstRepeat? seen ids = some id ↔
      ∃ before after, ids = before ++ id :: after ∧ (before.reverse ++ seen).Nodup ∧ id ∈ before.reverse ++ seen := by
  induction ids generalizing seen with
  | nil => simp [firstRepeat?]
  | cons x rest ih =>
    by_cases hx : x ∈ seen
    · simp only [firstRepeat?, if_pos hx, Option.some.injEq]
      constructor
      · rintro rfl
        exact ⟨[], rest, rfl, hseen, hx⟩
      · rintro ⟨before, after, hids, hnodup, -⟩
        cases before with
        | nil => exact (List.cons.inj hids).1
        | cons y before =>
          obtain ⟨rfl, -⟩ := List.cons.inj hids
          rw [List.reverse_cons, List.append_assoc] at hnodup
          exact absurd hx (List.nodup_cons.mp (List.nodup_append.mp hnodup).2.1).1
    · simp only [firstRepeat?, if_neg hx, ih (List.nodup_cons.mpr ⟨hx, hseen⟩)]
      constructor
      · rintro ⟨before, after, rfl, hnodup, hid⟩
        refine ⟨x :: before, after, rfl, ?_, ?_⟩
        · simpa using hnodup
        · simpa using hid
      · rintro ⟨before, after, hids, hnodup, hid⟩
        cases before with
        | nil =>
          obtain ⟨rfl, -⟩ := List.cons.inj hids
          exact absurd hid hx
        | cons y before =>
          obtain ⟨rfl, rfl⟩ := List.cons.inj hids
          refine ⟨before, after, rfl, ?_, ?_⟩
          · simpa using hnodup
          · simpa using hid

variable {first : ClusterContext} {named : List ClusterContext}

theorem ofList_eq_error_iff {id : String} :
    ofList first named = .error id ↔ IsFirstRepeat ((first :: named).map (·.id)) id := by
  have hsearch : ofList first named = .error id ↔ firstRepeat? [first.id] (named.map (·.id)) = some id := by
    unfold ofList
    split
    · next h => simp [h]
    · next h => simp [h]
  rw [hsearch, firstRepeat?_eq_some_iff (List.nodup_singleton _)]
  constructor
  · rintro ⟨before, after, hids, hnodup, hid⟩
    refine ⟨first.id :: before, after, by rw [List.map_cons, hids, List.cons_append], ?_, ?_⟩
    · rwa [← List.nodup_reverse, List.reverse_cons]
    · rwa [← List.mem_reverse, List.reverse_cons]
  · rintro ⟨before, after, hids, hnodup, hid⟩
    cases before with
    | nil => cases hid
    | cons y before =>
      obtain ⟨rfl, hnamed⟩ := List.cons.inj hids
      rw [← List.nodup_reverse, List.reverse_cons] at hnodup
      rw [← List.mem_reverse, List.reverse_cons] at hid
      exact ⟨before, after, hnamed, hnodup, hid⟩

theorem exists_ofList (h : ((first :: named).map (·.id)).Nodup) : ∃ contexts, ofList first named = .ok contexts := by
  cases hlist : ofList first named with
  | ok contexts => exact ⟨contexts, rfl⟩
  | error id => exact absurd h (ofList_eq_error_iff.mp hlist).not_nodup

theorem exists_isFirstRepeat_iff :
    (∃ id, IsFirstRepeat ((first :: named).map (·.id)) id) ↔ ¬ ((first :: named).map (·.id)).Nodup := by
  constructor
  · rintro ⟨id, h⟩
    exact h.not_nodup
  · intro h
    cases hlist : ofList first named with
    | error id => exact ⟨id, ofList_eq_error_iff.mp hlist⟩
    | ok contexts =>
      obtain ⟨rfl, rfl⟩ := of_ofList hlist
      exact absurd contexts.distinct h

end Contexts

/-! ## What a start comes to -/

variable {σ κ : Type}

def Fleet.built? (f : Fleet σ κ) (c : ClusterContext) (world : σ) : Option (Outcome κ × σ) :=
  (f.connect c world).1.await? (f.connect c world).2

namespace State

variable {f : Fleet σ κ} {first : ClusterContext} {named : List ClusterContext} {clock : Instant} {world w : σ}

theorem start?_of_never (h : f.built? first world = none) : State.start? f first named clock world = none := by
  rw [Fleet.built?] at h
  simp only [State.start?, h]

theorem start?_of_failure {failure : Failure} (h : f.built? first world = some (.error failure, w)) :
    State.start? f first named clock world = some (.error (.defaultContext first.id failure)) := by
  rw [Fleet.built?] at h
  simp only [State.start?, h]

theorem start?_of_client {client : κ} (h : f.built? first world = some (.ok client, w)) :
    State.start? f first named clock world =
      match Contexts.ofList first named with
      | .error id => some (.error (.duplicateContext id))
      | .ok contexts => some (.ok ⟨.start contexts client, w, clock,
          [.connected ⟨first.id, 0⟩ client, .connecting ⟨first.id, 0⟩]⟩) := by
  rw [Fleet.built?] at h
  cases hcontexts : Contexts.ofList first named <;> simp only [State.start?, h, hcontexts]

theorem start?_eq_duplicate_iff {client : κ} (h : f.built? first world = some (.ok client, w)) {id : String} :
    State.start? f first named clock world = some (.error (.duplicateContext id)) ↔
      IsFirstRepeat ((first :: named).map (·.id)) id := by
  rw [start?_of_client h, ← Contexts.ofList_eq_error_iff]
  cases Contexts.ofList first named <;> simp

end State

/-! ## Configurations without a fault -/

namespace Config

theorem fault?_of_validate {c : Config} (h : c.validate = .ok ()) : c.fault? = none := by
  unfold validate at h
  split at h
  · cases h
  · next hnone => exact hnone

theorem nodup_of_validate {c : Config} (h : c.validate = .ok ()) (var : Variables) :
    ((c.defaultContext var :: c.contexts).map (·.id)).Nodup := by
  obtain ⟨hids, hnodup⟩ := idFault?_eq_none_iff.mp (idFault?_of_fault? (fault?_of_validate h))
  rw [List.map_cons, id_defaultContext]
  exact List.nodup_cons.mpr ⟨fun hmem => (hids _ hmem).2.1 rfl, hnodup⟩

theorem gateway?_eq {kinds : List ResourceKind} {catalog : Catalog} (h : Catalog.ofTable kinds = .ok catalog)
    (c : Config) (var : Variables) (f : Fleet σ κ) (clock : Instant) (world : σ) :
    c.gateway? kinds var f clock world =
      (c.start? var f clock world).map fun started => started.map fun s => (c.settings catalog, s) := by
  unfold gateway?
  rw [h]
  rcases c.start? var f clock world with _ | _ | _ <;> rfl

/-- **A configuration that was found to be in order starts.** It fails exactly if the client of the default
context cannot be built. Whoever starts with contexts of his own is told of the first id that comes twice,
exactly if there is one. -/
theorem validated_config_starts (f : Fleet σ κ) (clock : Instant) (world : σ) :
    (∀ (c : Config) (var : Variables), c.validate = .ok () →
      match f.built? (c.defaultContext var) world with
      | none => c.gateway? servedKinds var f clock world = none
      | some (.error failure, _) =>
        c.gateway? servedKinds var f clock world = some (.error (.defaultContext defaultId failure))
      | some (.ok client, world') =>
        ∃ g s, c.gateway? servedKinds var f clock world = some (.ok (g, s)) ∧
          s.registry.contexts.ids = defaultId :: c.contexts.map (·.id) ∧ s.registry.contexts.ids.Nodup ∧
          s.journal = [.connected ⟨defaultId, 0⟩ client, .connecting ⟨defaultId, 0⟩] ∧ s.world = world') ∧
    ∀ first named client world', f.built? first world = some (.ok client, world') →
      let ids := (first :: named).map (·.id)
      (∀ id, State.start? f first named clock world = some (.error (.duplicateContext id)) ↔ IsFirstRepeat ids id) ∧
        ((∃ id, State.start? f first named clock world = some (.error (.duplicateContext id))) ↔
          ∃ id, 1 < ids.count id) := by
  constructor
  · intro c var hvalid
    have hgateway := c.gateway?_eq Catalog.ofTable_servedKinds var f clock world
    rw [start?] at hgateway
    cases hbuilt : f.built? (c.defaultContext var) world with
    | none =>
      rw [State.start?_of_never hbuilt] at hgateway
      exact hgateway
    | some built =>
      obtain ⟨outcome, world'⟩ := built
      cases outcome with
      | error failure =>
        rw [State.start?_of_failure hbuilt, id_defaultContext] at hgateway
        exact hgateway
      | ok client =>
        obtain ⟨contexts, hcontexts⟩ := Contexts.exists_ofList (nodup_of_validate hvalid var)
        have hstart : State.start? f (c.defaultContext var) c.contexts clock world = _ := State.start?_of_client hbuilt
        rw [hcontexts] at hstart
        rw [hstart] at hgateway
        have hids := ids_of_start? (c := c) hstart
        exact ⟨_, _, hgateway, hids, contexts.distinct, by rw [id_defaultContext], rfl⟩
  · intro first named client world' hbuilt ids
    have hrepeat : ∀ id, State.start? f first named clock world = some (.error (.duplicateContext id)) ↔
        IsFirstRepeat ids id := fun id => State.start?_eq_duplicate_iff hbuilt
    refine ⟨hrepeat, ?_⟩
    simp only [hrepeat]
    rw [Contexts.exists_isFirstRepeat_iff, List.nodup_iff_count_le_one]
    simp [ids]

theorem validated_config_starts_of_two :
    let c : Config := { standard with inCluster := true, contexts := [⟨"staging", .inCluster⟩, ⟨" prod", .inCluster⟩] }
    let f := Simulated.fleet .echo
    let world : Simulated.World := .empty
    let first : ClusterContext := ⟨"main", .inCluster⟩
    let named := ["a", "b", "b", "a"].map fun id => (⟨id, .inCluster⟩ : ClusterContext)
    c.validate = .ok () ∧
      (∃ g s, c.gateway? servedKinds (fun _ => none) f 0 world = some (.ok (g, s)) ∧
        s.registry.contexts.ids = ["default", "staging", " prod"] ∧ s.world.built = 1) ∧
      IsFirstRepeat ["main", "a", "b", "b", "a"] "b" ∧
      State.start? f first named 0 world = some (.error (.duplicateContext "b")) := by
  intro c f world first named
  obtain ⟨hstarts, hrepeats⟩ := validated_config_starts f 0 world
  have hvalid : c.validate = .ok () := by
    have hfault : c.fault? = none := by decide +kernel
    rw [validate, hfault]
  have hfirst : IsFirstRepeat ["main", "a", "b", "b", "a"] "b" :=
    ⟨["main", "a", "b"], ["a"], rfl, by decide, by decide⟩
  obtain ⟨g, s, hgateway, hids, -, -, hworld⟩ := hstarts c (fun _ => none) hvalid
  refine ⟨hvalid, ⟨g, s, hgateway, hids, by rw [hworld]; rfl⟩, hfirst, ?_⟩
  exact ((hrepeats first named ⟨"main", 1⟩ { world with built := 1 } rfl).1 "b").mpr hfirst

end Config

end ClusterGateway
