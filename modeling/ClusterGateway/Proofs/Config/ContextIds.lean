import ClusterGateway.Config.Basic
import ClusterGateway.Proofs.Gateway.Interleaving
import ClusterGateway.Proofs.Gateway.Stages
import ClusterGateway.Proofs.Text.Trim
import ClusterGateway.Simulated.Fleet

/-!
# Ids of contexts that a configuration declares

A configuration without a fault may declare ids with blanks around them. The registry lists a
context under its id as it is, but drops the blanks from an id that it is asked for.
-/

namespace ClusterGateway

variable {σ κ : Type}

namespace Config

theorem idFault?_eq_none_iff {seen ids : List String} :
    idFault? seen ids = none ↔
      (∀ id ∈ ids, Text.isBlankText id = false ∧ id ≠ defaultId ∧ id ∉ seen) ∧ ids.Nodup := by
  induction ids generalizing seen with
  | nil => simp [idFault?]
  | cons x rest ih =>
    unfold idFault?
    by_cases hblank : Text.isBlankText x = true
    · simp [hblank]
    · by_cases hreserved : x = defaultId
      · rw [if_neg hblank, if_pos hreserved]
        simp [hreserved]
      · by_cases hseen : x ∈ seen
        · simp [hblank, hreserved, hseen]
        · rw [if_neg hblank, if_neg hreserved, if_neg (by simpa using hseen), ih, List.forall_mem_cons,
            List.nodup_cons]
          constructor
          · rintro ⟨hrest, hnodup⟩
            refine ⟨⟨⟨by simpa using hblank, hreserved, hseen⟩, fun id hid => ?_⟩, fun hx => ?_, hnodup⟩
            · obtain ⟨hid', hne, hnew⟩ := hrest id hid
              exact ⟨hid', hne, fun h => hnew (List.mem_cons_of_mem _ h)⟩
            · exact (hrest x hx).2.2 List.mem_cons_self
          · rintro ⟨⟨-, hrest⟩, hx, hnodup⟩
            refine ⟨fun id hid => ?_, hnodup⟩
            obtain ⟨hid', hne, hnew⟩ := hrest id hid
            refine ⟨hid', hne, fun h => ?_⟩
            rcases List.mem_cons.mp h with rfl | h
            · exact hx hid
            · exact hnew h

theorem idFault?_of_fault? {c : Config} (h : c.fault? = none) :
    idFault? [] (c.contexts.map ClusterContext.id) = none := by
  unfold fault? at h
  split at h
  · cases h
  · split at h
    · cases h
    · split at h
      · cases h
      · split at h
        · cases h
        · exact h

theorem not_blank_of_fault? {c : Config} (h : c.fault? = none) :
    ∀ id ∈ c.contexts.map ClusterContext.id, Text.isBlankText id = false :=
  fun id hid => ((idFault?_eq_none_iff.mp (idFault?_of_fault? h)).1 id hid).1

theorem id_defaultContext (c : Config) (var : Variables) : (c.defaultContext var).id = defaultId := by
  unfold defaultContext
  split <;> rfl

theorem ids_of_start? {c : Config} {var : Variables} {f : Fleet σ κ} {clock : Instant} {world : σ}
    {s : State σ κ} (h : c.start? var f clock world = some (.ok s)) :
    s.registry.contexts.ids = defaultId :: c.contexts.map ClusterContext.id := by
  obtain ⟨hfirst, hnamed⟩ := State.contexts_of_start? h
  rw [Contexts.ids, Contexts.all, hfirst, hnamed, List.map_cons, id_defaultContext]

theorem not_blank_of_listed {c : Config} {var : Variables} {f : Fleet σ κ} {clock : Instant} {world : σ}
    {s : State σ κ} (h : c.fault? = none) (hs : c.start? var f clock world = some (.ok s)) {id : String}
    (hid : id ∈ s.registry.contexts.ids) : Text.isBlankText id = false := by
  rw [ids_of_start? hs] at hid
  rcases List.mem_cons.mp hid with rfl | hid
  · decide
  · exact not_blank_of_fault? h id hid

end Config

namespace Contexts

theorem select_of_not_blank (c : Contexts) {id : String} (h : Text.isBlankText id = false) :
    c.select (some id) =
      match c.find? (Text.trim id) with
      | some x => .ok x
      | none => .error (.unknownContext (Text.trim id)) := by
  have hnamed : c.named? (some id) = Text.trim id := by
    rw [named?, Text.nonBlank?_of_not_blank h, Option.getD_some]
  unfold select
  cases hf : c.find? (Text.trim id) with
  | none => rw [hnamed, hf]
  | some x => rw [hnamed, hf]

end Contexts

/-! ## Which ids lead to their contexts -/

namespace Config

variable [DecidableEq κ] (g : Settings) (f : Fleet σ κ)

/-- In every state that a gateway of a configuration without a fault can reach, each id that it lists
has its context, and the id selects this context exactly if there are no blanks around it. The
client that it resolves to is then the one of this context, and a failure comes from building it.
With blanks around it the id selects another context, or none. -/
theorem selects_own_iff_trimmed {c : Config} {var : Variables} {clock : Instant} {world : σ} {s : State σ κ}
    (h : c.fault? = none) (hs : c.start? var f clock world = some (.ok s)) (jobs : List Job)
    (moves : List (Move κ)) :
    let r := ((Pool.ofJobs jobs s).run g f moves).state
    ∀ id ∈ r.registry.contexts.ids, ∃ context, r.registry.contexts.find? id = some context ∧ context.id = id ∧
      (r.registry.contexts.select (some id) = .ok context ↔ Text.trim id = id) ∧
      (Text.trim id = id → ∀ deadline, Gateway.resolveWithin g f deadline (some id) r =
        let fetched := r.fetch f deadline context (r.registry.current id)
        (fetched.1.map fun outcome => outcome.map (.resolved context), fetched.2)) ∧
      (Text.trim id ≠ id →
        match r.registry.contexts.find? (Text.trim id) with
        | some other => other ≠ context ∧ r.registry.contexts.select (some id) = .ok other
        | none => r.registry.contexts.select (some id) = .error (.unknownContext (Text.trim id))) := by
  intro r id hid
  have hcontexts : r.registry.contexts = s.registry.contexts :=
    ((Pool.Orderly.ofJobs jobs s).run g f moves).2.contexts_eq
  have hblank : Text.isBlankText id = false := not_blank_of_listed h hs (hcontexts ▸ hid)
  have hselect := r.registry.contexts.select_of_not_blank hblank
  obtain ⟨context, hfind, rfl⟩ := Contexts.find?_of_mem_ids hid
  have hown : Text.trim context.id = context.id →
      r.registry.contexts.select (some context.id) = .ok context := by
    intro ht
    rw [hselect, ht, hfind]
  refine ⟨context, hfind, rfl, ⟨fun ho => ?_, hown⟩, fun ht deadline => ?_, fun ht => ?_⟩
  · have hid := (Contexts.mem_of_select ho).2
    rw [Contexts.named?, Text.nonBlank?_of_not_blank hblank, Option.getD_some] at hid
    exact hid.symm
  · rw [Gateway.resolveWithin_eq, hown ht]
  · rw [hselect]
    cases ho : r.registry.contexts.find? (Text.trim context.id) with
    | none => rfl
    | some other =>
      refine ⟨fun he => ht ?_, rfl⟩
      rw [← (Contexts.mem_of_find? ho).2, he]

theorem selects_own_of_trimmed :
    let f := Simulated.fleet .echo
    let staging : ClusterContext := ⟨"staging", .inCluster⟩
    let c : Config := { standard with contexts := [staging, ⟨" east ", .inCluster⟩] }
    c.fault? = none ∧ ∃ s, c.start? (fun _ => none) f 0 .empty = some (.ok s) ∧
      s.registry.contexts.select (some "staging") = .ok staging := by
  intro f staging c
  have hfault : c.fault? = none := by decide
  have hs : c.start? (fun _ => none) f 0 .empty = some (.ok _) := rfl
  obtain ⟨context, hfind, _, hiff, _⟩ :=
    selects_own_iff_trimmed ⟨⟨[], rfl⟩, ⟨[]⟩, none⟩ f hfault hs [] [] "staging" (by decide)
  obtain rfl : context = staging := Option.some.inj (hfind.symm.trans (by decide))
  exact ⟨hfault, _, hs, hiff.mpr (by decide)⟩

/-- An id with blanks around it is accepted and listed, and leads nowhere or to the default context. -/
theorem not_selects_own_of_blanks :
    let c : Config := { standard with contexts := [⟨" staging ", .inCluster⟩, ⟨" default ", .inCluster⟩] }
    c.fault? = none ∧
      ∃ s, c.start? (fun _ => none) (Simulated.fleet .echo) 0 .empty = some (.ok s) ∧
        s.registry.contexts.ids = ["default", " staging ", " default "] ∧
        s.registry.contexts.select (some " staging ") = .error (.unknownContext "staging") ∧
        s.registry.contexts.select (some " default ") = .ok s.registry.contexts.first := by
  intro c
  exact ⟨by decide, _, rfl, by decide, by decide, by decide⟩

end Config

end ClusterGateway
