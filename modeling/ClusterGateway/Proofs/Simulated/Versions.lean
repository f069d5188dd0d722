import ClusterGateway.Proofs.Gateway.Versions
import ClusterGateway.Proofs.Simulated.Store

/-!
# The clusters in memory keep versions

Each write takes the next revision for its version, so the versions that a store has given are those
up to its revision.
-/

namespace ClusterGateway.Simulated

/-! ## Objects under other keys -/

namespace Store

variable {s s' : Store} {k l : Key} {t : String}

theorem get?_insertAt_of_ne (h : l ≠ k) (v : Json) (objects : List (Key × Json)) (revision revision' : Nat) :
    (⟨revision, insertAt k v objects⟩ : Store).get? l = (⟨revision', objects⟩ : Store).get? l := by
  unfold get?
  congr 1
  induction objects with
  | nil => simp [insertAt, h.symm]
  | cons entry rest ih =>
    obtain ⟨key, w⟩ := entry
    simp only [insertAt]
    split
    · next hk =>
      subst hk
      simp [h.symm]
    · split
      · simp [h.symm]
      · simp only [List.find?_cons, ih]

theorem get?_write_of_ne (h : l ≠ k) (s : Store) (object : Json) : (s.write k object).2.get? l = s.get? l :=
  get?_insertAt_of_ne h _ _ _ _

theorem get?_erase_of_ne (h : l ≠ k) (s : Store) : (s.erase k).get? l = s.get? l := by
  simp only [get?, erase, List.find?_filter]
  congr 2
  funext entry
  by_cases hl : entry.1 = l
  · simp [hl, h]
  · simp [hl]

/-! ## Versions of a store -/

def version? (s : Store) (k : Key) : Option String := (s.get? k).bind (text · "resourceVersion")

def Used (s : Store) (t : String) : Prop := ∃ n ≤ s.revision, toString n = t

def Numbered (s : Store) : Prop := ∀ k t, s.version? k = some t → s.Used t

/-- The revision has not gone down, and an object has the version that it had or one given since. -/
structure Evolves (s s' : Store) : Prop where
  revision : s.revision ≤ s'.revision
  fresh : ∀ k t, s'.version? k = some t → s.version? k = some t ∨ ∃ n, s.revision < n ∧ n ≤ s'.revision ∧ toString n = t

theorem Evolves.refl (s : Store) : s.Evolves s := ⟨Nat.le_refl _, fun _ _ h => .inl h⟩

theorem Used.mono (hu : s.Used t) (h : s.Evolves s') : s'.Used t := by
  obtain ⟨n, hn, ht⟩ := hu
  exact ⟨n, Nat.le_trans hn h.revision, ht⟩

theorem not_used_of_lt {n : Nat} (h : s.revision < n) : ¬ s.Used (toString n) := by
  rintro ⟨m, hm, ht⟩
  have hmn : m = n := Nat.repr_inj.mp ht
  omega

theorem Numbered.mono (hs : s.Numbered) (h : s.Evolves s') : s'.Numbered := by
  intro k t hv
  rcases h.fresh k t hv with hv | ⟨n, -, hn, ht⟩
  · exact (hs k t hv).mono h
  · exact ⟨n, hn, ht⟩

theorem text_eq (object : Json) (field : String) :
    text object field = (Manifest.field? object field).bind Json.string? := rfl

theorem text_setMetadata {field value : String} {object : Json}
    (h : text (setMetadata field value object) field = some t) : t = value := by
  unfold setMetadata at h
  split at h
  · simpa [text, Json.string?] using h.symm
  · next hobj =>
    cases object with
    | obj fields => exact absurd rfl (hobj fields)
    | _ => cases h

theorem text_setMetadata_obj (field value : String) (fields : List (String × Json)) :
    text (setMetadata field value (.obj fields)) field = some value := by
  simp [setMetadata, text, Json.string?]

theorem evolves_write (s : Store) (k : Key) (object : Json) : s.Evolves (s.write k object).2 := by
  refine ⟨Nat.le_succ _, fun l t hv => ?_⟩
  by_cases hl : l = k
  · subst hl
    rw [version?, get?_write] at hv
    obtain rfl := text_setMetadata hv
    exact .inr ⟨_, Nat.lt_succ_self _, Nat.le_refl _, rfl⟩
  · rw [version?, get?_write_of_ne hl] at hv
    exact .inl hv

theorem evolves_erase (s : Store) (k : Key) : s.Evolves (s.erase k) := by
  refine ⟨Nat.le_refl _, fun l t hv => .inl ?_⟩
  by_cases hl : l = k
  · subst hl
    rw [version?, get?_erase] at hv
    cases hv
  · rwa [version?, get?_erase_of_ne hl] at hv

theorem evolves_perform (s : Store) (c : Call) : s.Evolves (s.perform c).2 := by
  unfold perform
  cases c.action with
  | list => exact .refl s
  | get name =>
    simp only
    split
    · exact .refl s
    · exact .refl s
  | create body =>
    simp only
    split
    · exact .refl s
    · exact s.evolves_write _ _
  | replace name body =>
    simp only
    split
    · exact .refl s
    · split
      · exact s.evolves_write _ _
      · exact .refl s
  | delete name =>
    simp only
    split
    · exact s.evolves_erase _
    · exact .refl s

theorem numbered_empty : empty.Numbered := fun _ _ h => by cases h

theorem Numbered.seed (hs : s.Numbered) (plural : String) (object : Json) : (s.seed plural object).Numbered :=
  hs.mono (s.evolves_write _ _)

theorem perform_replace {resource : ApiResource} {ns : Option String} {name : String} {body a : Json}
    (hb : Manifest.field? body "resourceVersion" = some (.str t))
    (h : (s.perform ⟨resource, ns, .replace name body⟩).1 = .ok a) :
    s.version? ⟨resource.plural, ns.getD "", name⟩ = some t ∧
      (s.perform ⟨resource, ns, .replace name body⟩).2.version? ⟨resource.plural, ns.getD "", name⟩ =
        some (toString (s.revision + 1)) := by
  have hbody : text body "resourceVersion" = some t := by
    rw [text_eq, hb]
    rfl
  obtain ⟨fields, rfl⟩ : ∃ fields, body = .obj fields := by
    cases body with
    | obj fields => exact ⟨fields, rfl⟩
    | _ => cases hb
  simp only [perform] at h ⊢
  split at h
  · cases h
  · next old hold =>
    split at h
    · next hsame =>
      have hversion : s.version? ⟨resource.plural, ns.getD "", name⟩ = some t := by
        rw [version?, hold, Option.bind_some, hsame, hbody]
      simp only [if_pos hsame]
      refine ⟨hversion, ?_⟩
      rw [version?, get?_write]
      exact text_setMetadata_obj _ _ _
    · cases h

end Store

/-! ## Versions of a world -/

namespace World

theorem store_putStore_of_ne {context other : String} (h : other ≠ context) (w : World) (s : Store) :
    (w.putStore context s).store other = w.store other := by
  simp [store, putStore, Json.Fields.get?_insert_of_ne h]

theorem store_putStore_cases (w : World) (context other : String) (s : Store) :
    (w.putStore context s).store other = w.store other ∨ other = context ∧ (w.putStore context s).store other = s := by
  by_cases h : other = context
  · subst h
    exact .inr ⟨rfl, w.store_putStore _ _⟩
  · exact .inl (w.store_putStore_of_ne h s)

def Evolves (w w' : World) : Prop := ∀ context, (w.store context).Evolves (w'.store context)

theorem evolves_of_stores {w w' : World} (h : w'.stores = w.stores) : w.Evolves w' := by
  intro context
  rw [store, store, h]
  exact .refl _

theorem evolves_putStore (w : World) (context : String) {s : Store} (h : (w.store context).Evolves s) :
    w.Evolves (w.putStore context s) := by
  intro other
  rcases w.store_putStore_cases context other s with hs | ⟨rfl, hs⟩
  · rw [hs]
    exact .refl _
  · rw [hs]
    exact h

end World

/-- An object is in the store of a context, whoever asks for it. -/
def versioning : Versioning World Client (String × Key) where
  up w := ∀ context, (w.store context).Numbered
  place client k := (client.context, storeKey k)
  version? o w := (w.store o.1).version? o.2
  used o t w := (w.store o.1).Used t

theorem up_empty : versioning.up .empty := fun _ => Store.numbered_empty

theorem up_putStore {w : World} (h : versioning.up w) (context : String) {s : Store} (hs : s.Numbered) :
    versioning.up (w.putStore context s) := by
  intro other
  rcases w.store_putStore_cases context other s with heq | ⟨-, heq⟩
  · rw [heq]
    exact h other
  · rw [heq]
    exact hs

theorem World.Evolves.versions {w w' : World} (h : w.Evolves w') (hup : versioning.up w) :
    versioning.up w' ∧ versioning.Evolves w w' := by
  refine ⟨fun context => (hup context).mono (h context), fun o t hu => hu.mono (h o.1), fun o t hv => ?_⟩
  rcases (h o.1).fresh o.2 t hv with hv | ⟨n, hn, -, rfl⟩
  · exact .inl hv
  · exact .inr (Store.not_used_of_lt hn)

theorem stores_build (c : ClusterContext) (w : World) : (build c w).2.stores = w.stores := by
  unfold build
  split
  · rfl
  · split
    · rfl
    · rfl

theorem evolves_call (client : Client) (c : Call) (w : World) : w.Evolves (call client c w).2 := by
  unfold call
  split
  · exact World.evolves_of_stores rfl
  · split
    · exact World.evolves_of_stores rfl
    · exact w.evolves_putStore _ ((w.store client.context).evolves_perform c)

theorem now_of_call {client : Client} {c : Call} {w : World} {a : Json} (h : (call client c w).1 = .now (.ok a)) :
    ((w.store client.context).perform c).1 = .ok a ∧
      (call client c w).2 = w.putStore client.context ((w.store client.context).perform c).2 := by
  unfold call at h ⊢
  split at h
  · cases h
  · next hhang =>
    rw [if_neg hhang]
    split at h
    · cases h
    · exact ⟨by simpa using h, rfl⟩

theorem not_later_call (client : Client) (c : Call) (w : World) {wait : Nat} {finish : World → Outcome Json × World} :
    (call client c w).1 ≠ .later wait finish := by
  unfold call
  split
  · nofun
  · split
    · nofun
    · nofun

theorem fleet_guards (d : Describer) : (fleet d).Guards versioning where
  stored hup hv := hup _ _ _ hv
  connect context w hup := by
    simp only [fleet, connect]
    split
    · exact ⟨(World.evolves_of_stores rfl).versions hup, fun _ _ hr => by cases hr⟩
    · split
      · refine ⟨(World.evolves_of_stores rfl).versions hup, fun wait finish hr w' hup' => ?_⟩
        cases hr
        exact (World.evolves_of_stores (stores_build context w')).versions hup'
      · exact ⟨(World.evolves_of_stores (stores_build context w)).versions hup, fun _ _ hr => by cases hr⟩
  call client c w hup :=
    ⟨(evolves_call client c w).versions hup, fun _ _ h => absurd h (not_later_call client c w)⟩
  describe context kind ns name w hup := by
    simp only [fleet, Describer.describe]
    cases d with
    | tool tool =>
      simp only
      split
      · refine ⟨(World.evolves_of_stores rfl).versions hup, fun wait finish hr w' hup' => ?_⟩
        cases hr
        exact (World.evolves_of_stores rfl).versions hup'
      · exact ⟨(World.evolves_of_stores rfl).versions hup, fun _ _ hr => by cases hr⟩
    | _ => exact ⟨(World.evolves_of_stores rfl).versions hup, fun _ _ hr => by cases hr⟩
  replace client resource ns name body t w hup hb := by
    refine ⟨fun a hr => ?_, fun _ _ h => absurd h (not_later_call client _ w)⟩
    obtain ⟨hok, hw⟩ := now_of_call hr
    obtain ⟨hhad, hhas⟩ := Store.perform_replace hb hok
    refine ⟨hhad, _, ?_, Store.not_used_of_lt (Nat.lt_succ_self _)⟩
    simp only [fleet, hw, versioning, World.store_putStore]
    exact hhas

end ClusterGateway.Simulated
