import ClusterGateway.Proofs.Gateway.Ownership
import ClusterGateway.Proofs.Gateway.Storage
import ClusterGateway.Simulated.Fleet

/-!
# Ids that are resolved and ids that are invalidated

Whoever resolves an id has the blanks around it dropped, and gets the first context for a blank one.
Whoever invalidates an id has it taken as it is. So the two agree on the ids that contexts have, and
part on all other spellings of them.
-/

namespace ClusterGateway

variable {σ κ : Type}

/-! ## Slots to come -/

namespace Registry

def Fresh (r : Registry κ) : Prop :=
  ∀ slot : SlotId, r.generation slot.context < slot.generation → r.slots slot = .empty

namespace Fresh

variable {r : Registry κ}

theorem put (h : r.Fresh) {slot : SlotId} (hslot : slot.generation ≤ r.generation slot.context) (content : Slot κ) :
    (r.put slot content).Fresh := by
  intro other hother
  rw [generation_put] at hother
  have hne : other ≠ slot := by
    rintro rfl
    exact absurd hother (Nat.not_lt.mpr hslot)
  rw [slots_put_of_ne r content hne]
  exact h other hother

theorem empty_evict (h : r.Fresh) (id : String) : (r.evict id).slots ((r.evict id).current id) = .empty := by
  have hgeneration : (r.evict id).generation id = r.generation id + 1 := by
    rw [generation_evict, if_pos rfl]
  rw [slots_evict, current, hgeneration]
  exact h ⟨id, r.generation id + 1⟩ (Nat.lt_succ_self _)

end Fresh

theorem current_evict_of_ne (r : Registry κ) {id other : String} (h : other ≠ id) :
    (r.evict id).current other = r.current other := by
  rw [current, current, generation_evict, if_neg h, Nat.add_zero]

end Registry

theorem State.fresh_of_fetch {f : Fleet σ κ} {deadline : Option Instant} {context : ClusterContext} {client : κ}
    {s s' : State σ κ} (hs : s.registry.Fresh)
    (h : s.fetch f deadline context (s.registry.current context.id) = (some (.ok client), s')) : s'.registry.Fresh := by
  rcases State.cases_of_fetch h with ⟨-, rfl⟩ | ⟨-, hregistry⟩
  · exact hs
  · rw [hregistry]
    exact hs.put (Nat.le_refl _) _

theorem Pool.fresh_of_start? [DecidableEq κ] (g : Settings) (f : Fleet σ κ) {first : ClusterContext}
    {named : List ClusterContext} {clock : Instant} {world : σ} {s : State σ κ}
    (h : State.start? f first named clock world = some (.ok s)) (jobs : List Job) (moves : List (Move κ)) :
    ((ofJobs jobs s).run g f moves).state.registry.Fresh :=
  fun _ hslot => (history_of_start? g f h jobs moves).2.empty_beyond hslot

/-! ## What resolving does -/

namespace Gateway

variable [DecidableEq κ] (g : Settings) (f : Fleet σ κ) {deadline : Option Instant} {id : Option String}
  {context : ClusterContext} {client : κ} {s s' : State σ κ}

theorem connecting_of_empty (hid : s.registry.contexts.select id = .ok context)
    (he : s.registry.slots (s.registry.current context.id) = .empty) (deadline : Option Instant) :
    ∃ es, (resolveWithin g f deadline id s).2.journal =
      es ++ .connecting (s.registry.current context.id) :: s.journal := by
  rw [resolveWithin_eq, hid]
  exact s.connecting_of_fetch f deadline context he

theorem resolveWithin_of_ready (hid : s.registry.contexts.select id = .ok context)
    (hready : s.registry.slots (s.registry.current context.id) = .ready client) (deadline : Option Instant) :
    resolveWithin g f deadline id s = (some (.ok (.resolved context client)), s) := by
  rw [resolveWithin_eq, hid]
  simp only [State.fetch, hready]
  rfl

variable {g f}

theorem fetch_of_resolved (h : resolveWithin g f deadline id s = (some (.ok (.resolved context client)), s')) :
    s.registry.contexts.select id = .ok context ∧
      s.fetch f deadline context (s.registry.current context.id) = (some (.ok client), s') := by
  rw [resolveWithin_eq] at h
  cases hid : s.registry.contexts.select id with
  | error failure =>
    rw [hid] at h
    cases h
  | ok found =>
    simp only [hid] at h
    rcases hf : s.fetch f deadline found (s.registry.current found.id) with ⟨_ | failure | c, s₁⟩
    · rw [hf] at h
      cases h
    · rw [hf] at h
      cases h
    · rw [hf] at h
      cases h
      exact ⟨rfl, hf⟩

end Gateway

/-! ## Whom an invalidation concerns -/

namespace State

section
variable [DecidableEq κ] (g : Settings) (f : Fleet σ κ)

/-- To invalidate the id drops the cached client of this context and of no other, so that whoever
resolves the same id next calls for a client of the context. -/
structure Drops (s : State σ κ) (id : String) (context : ClusterContext) : Prop where
  moved : s.invalidate id = (true, s.evict context.id)
  others : ∀ other, other ≠ context.id → (s.evict context.id).registry.current other = s.registry.current other
  slots : (s.evict context.id).registry.slots = s.registry.slots
  empty : (s.evict context.id).registry.slots ((s.evict context.id).registry.current context.id) = .empty
  rebuilds : ∀ deadline, ∃ es, (Gateway.resolveWithin g f deadline (some id) (s.evict context.id)).2.journal =
    es ++ .connecting ((s.evict context.id).registry.current context.id) :: (s.evict context.id).journal

theorem drops_iff {s : State σ κ} (hs : s.registry.Fresh) {id : String} {context : ClusterContext}
    (hid : s.registry.contexts.select (some id) = .ok context) : s.Drops g f id context ↔ context.id = id := by
  constructor
  · intro h
    have hmoved := h.moved
    rw [invalidate_eq] at hmoved
    split at hmoved
    · -- only the context that was asked for has come to another slot
      have hevict : s.evict id = s.evict context.id := (Prod.mk.inj hmoved).2
      have hgeneration := congrArg (·.registry.generation context.id) hevict
      simp only [registry_evict, Registry.generation_evict, if_true] at hgeneration
      by_contra hne
      rw [if_neg hne] at hgeneration
      omega
    · cases (Prod.mk.inj hmoved).1
  · rintro rfl
    have hfind : s.registry.contexts.find? context.id = some context :=
      Contexts.find?_eq_some_iff.mpr ⟨(Contexts.select_eq_ok_iff.mp hid).1, rfl⟩
    have hempty := hs.empty_evict context.id
    refine ⟨?_, fun other => Registry.current_evict_of_ne _, rfl, hempty, ?_⟩
    · rw [invalidate_eq, hfind]
      rfl
    · exact Gateway.connecting_of_empty g f hid hempty

end

theorem current_invalidate_of_ne (s : State σ κ) {id other : String} (h : other ≠ id) :
    (s.invalidate id).2.registry.current other = s.registry.current other := by
  rcases s.invalidate_cases id with hi | hi
  · rw [hi]
    exact s.registry.current_evict_of_ne h
  · rw [hi]

theorem slots_invalidate (s : State σ κ) (id : String) :
    (s.invalidate id).2.registry.slots = s.registry.slots := by
  rcases s.invalidate_cases id with hi | hi
  · rw [hi, registry_evict, Registry.slots_evict]
  · rw [hi]

theorem contexts_invalidate (s : State σ κ) (id : String) :
    (s.invalidate id).2.registry.contexts = s.registry.contexts := by
  rcases s.invalidate_cases id with hi | hi
  · rw [hi, registry_evict, Registry.contexts_evict]
  · rw [hi]

theorem invalidate_eq_self_iff (s : State σ κ) (id : String) :
    s.invalidate id = (false, s) ↔ id ∉ s.registry.contexts.ids := by
  rw [invalidate_eq]
  split
  · next h =>
    obtain ⟨context, hfind⟩ := Option.isSome_iff_exists.mp h
    obtain ⟨hmem, rfl⟩ := Contexts.mem_of_find? hfind
    refine ⟨fun he => ?_, fun hid => ?_⟩
    · cases (Prod.mk.inj he).1
    · exact absurd (List.mem_map_of_mem hmem) hid
  · next h =>
    refine iff_of_true rfl fun hid => h ?_
    obtain ⟨context, hfind, -⟩ := Contexts.find?_of_mem_ids hid
    rw [hfind]
    rfl

end State

/-! ## Both readings of an id -/

namespace Gateway

variable [DecidableEq κ] (g : Settings) (f : Fleet σ κ)

/-- In every state that can be reached: where an id resolves to a context, to invalidate it drops the client of
this context, and of no other, exactly if the context has this very id. Where it leads to no context, to
invalidate it does nothing exactly if no context has this very id. -/
theorem drops_resolved_iff {first : ClusterContext} {named : List ClusterContext} {clock : Instant} {world : σ}
    {s : State σ κ} (h : State.start? f first named clock world = some (.ok s)) (jobs : List Job)
    (moves : List (Move κ)) (id : String) :
    let r := ((Pool.ofJobs jobs s).run g f moves).state
    (∀ deadline context client r₁,
      resolveWithin g f deadline (some id) r = (some (.ok (.resolved context client)), r₁) →
        (r₁.Drops g f id context ↔ context.id = id) ∧
        (context.id ≠ id → ∀ later, resolveWithin g f later (some id) (r₁.invalidate id).2 =
          (some (.ok (.resolved context client)), (r₁.invalidate id).2))) ∧
    (∀ failure, r.registry.contexts.select (some id) = .error failure →
      (r.invalidate id = (false, r) ↔ id ∉ r.registry.contexts.ids)) ∧
    (id ≠ "" → Text.trim id = id →
      (∀ context, r.registry.contexts.select (some id) = .ok context → context.id = id) ∧
      ∀ failure, r.registry.contexts.select (some id) = .error failure → id ∉ r.registry.contexts.ids) := by
  intro r
  have hr : r.registry.Fresh := Pool.fresh_of_start? g f h jobs moves
  refine ⟨fun deadline context client r₁ hresolve => ?_, fun _ _ => r.invalidate_eq_self_iff id,
    fun hne htrim => ?_⟩
  · obtain ⟨hid, hfetch⟩ := fetch_of_resolved hresolve
    obtain ⟨hready, hcontexts, hgeneration⟩ := State.slot_of_fetch hfetch
    rw [← hcontexts] at hid
    refine ⟨State.drops_iff g f (State.fresh_of_fetch hr hfetch) hid, fun hother later => ?_⟩
    -- the context is still on the slot that the client was put into
    have hcurrent : (r₁.invalidate id).2.registry.current context.id = r.registry.current context.id := by
      rw [r₁.current_invalidate_of_ne hother, Registry.current, hgeneration, Registry.current]
    refine resolveWithin_of_ready g f (by rw [r₁.contexts_invalidate, hid]) ?_ later
    rw [r₁.slots_invalidate, hcurrent, hready]
  · have hnamed : Text.nonBlank? (some id) = some id := Text.nonBlank?_eq_some_iff.mpr ⟨id, rfl, htrim, hne⟩
    refine ⟨fun context hid => ?_, fun failure hid hmem => ?_⟩
    · rw [(Contexts.select_eq_ok_iff.mp hid).2, hnamed, Option.getD_some]
    · obtain ⟨context, hfind, -⟩ := Contexts.find?_of_mem_ids hmem
      obtain ⟨hall, hcontext⟩ := Contexts.mem_of_find? hfind
      have hselect : r.registry.contexts.select (some id) = .ok context := by
        rw [Contexts.select_eq_ok_iff, hnamed]
        exact ⟨hall, hcontext⟩
      rw [hselect] at hid
      cases hid

theorem drops_resolved_of_spellings :
    let g : Settings := ⟨⟨[], rfl⟩, ⟨[]⟩, none⟩
    let f := Simulated.fleet .echo
    let first : ClusterContext := ⟨"default", .inCluster⟩
    let staging : ClusterContext := ⟨"staging", .inCluster⟩
    let client : Simulated.Client := ⟨"staging", 2⟩
    let s : State Simulated.World Simulated.Client :=
      ⟨.start ⟨first, [staging], by decide⟩ ⟨"default", 1⟩, { Simulated.World.empty with built := 1 }, 0,
        [.connected ⟨"default", 0⟩ ⟨"default", 1⟩, .connecting ⟨"default", 0⟩]⟩
    let r₁ := (resolve g f (some "staging") s).2
    State.start? f first [staging] 0 .empty = some (.ok s) ∧ r₁.Drops g f "staging" staging ∧
      ¬ r₁.Drops g f " staging\n" staging ∧ (r₁.invalidate " staging\n").1 = false ∧
      (resolve g f (some " staging\n") (r₁.invalidate " staging\n").2).1 =
        some (.ok (.resolved staging client)) := by
  intro g f first staging client s r₁
  have hs : State.start? f first [staging] 0 .empty = some (.ok s) := rfl
  have hown : resolveWithin g f none (some "staging") s = (some (.ok (.resolved staging client)), r₁) := rfl
  have hother : resolveWithin g f none (some " staging\n") s = (some (.ok (.resolved staging client)), r₁) := rfl
  obtain ⟨own, -⟩ := drops_resolved_iff g f hs [] [] "staging"
  obtain ⟨other, -⟩ := drops_resolved_iff g f hs [] [] " staging\n"
  obtain ⟨hdrops, -⟩ := own _ _ _ _ hown
  obtain ⟨hdrops', hstays⟩ := other _ _ _ _ hother
  refine ⟨hs, hdrops.mpr rfl, fun h => ?_, rfl, ?_⟩
  · exact absurd (hdrops'.mp h) (by decide)
  · rw [resolve_eq_resolveWithin, hstays (by decide)]

/-- With blanks around it, an id resolves to a context whose client it does not drop, as does a blank
one. An id that a context has with blanks around it leads nowhere, and yet there is something to drop. -/
theorem not_drops_resolved_of_blanks :
    let g : Settings := ⟨⟨[], rfl⟩, ⟨[]⟩, none⟩
    let f := Simulated.fleet .echo
    let first : ClusterContext := ⟨"default", .inCluster⟩
    let staging : ClusterContext := ⟨"staging", .inCluster⟩
    let client : Simulated.Client := ⟨"staging", 2⟩
    ∃ s, State.start? f first [staging, ⟨" east ", .inCluster⟩] 0 .empty = some (.ok s) ∧
      (∃ r₁, resolve g f (some " staging ") s = (some (.ok (.resolved staging client)), r₁) ∧
        r₁.invalidate " staging " = (false, r₁) ∧
        (resolve g f (some " staging ") r₁).1 = some (.ok (.resolved staging client))) ∧
      (∃ r₁, resolve g f (some " ") s = (some (.ok (.resolved first ⟨"default", 1⟩)), r₁) ∧
        r₁.invalidate " " = (false, r₁)) ∧
      (resolve g f (some " east ") s).1 = some (.error (.unknownContext "east")) ∧
        (s.invalidate " east ").1 = true := by
  intro g f first staging client
  exact ⟨_, rfl, ⟨_, rfl, rfl, rfl⟩, ⟨_, rfl, rfl⟩, rfl, rfl⟩

end Gateway

end ClusterGateway
