import ClusterGateway.Proofs.Resource.Naming

/-!
# What the gate lets pass

The gate decides by the row that the kind is found as, by what its policy asks for the verb, and by
the level of the principal, in this order. What it lets one level do it lets every higher one do, and
the kinds that are listed for a level are those that it lets the level list and get.
-/

namespace ClusterGateway

theorem Policy.allows_iff {p : Policy} {verb : Verb} {level : Level} :
    p.allows verb level = true ↔ ∃ required, p.required? verb = some required ∧ required ≤ level := by
  unfold allows
  cases p.required? verb <;> simp

theorem Policy.allows_mono {p : Policy} {verb : Verb} {level higher : Level} (h : level ≤ higher)
    (ha : p.allows verb level = true) : p.allows verb higher = true := by
  obtain ⟨required, hrequired, hle⟩ := allows_iff.mp ha
  exact allows_iff.mpr ⟨required, hrequired, Level.le_trans hle h⟩

theorem Principal.hasLevel_iff {p : Principal} {required : Level} :
    p.hasLevel required = true ↔ required ≤ p.level := by
  simp [hasLevel]

namespace Catalog

/-! ## What the gate decides -/

variable {c : Catalog} {p : Principal} {kind : String} {verb : Verb} {r : ResourceKind}

theorem authorize_eq (c : Catalog) (p : Principal) (kind : String) (verb : Verb) :
    c.authorize p kind verb =
      match c.find? kind with
      | none => .error (.unsupportedKind kind)
      | some r =>
        match r.policy.required? verb with
        | none => .error (.verbUnsupported r.name verb)
        | some level =>
          if p.hasLevel level then .ok r else .error (.insufficientAccess r.name verb level p.level) := by
  unfold authorize lookup
  cases c.find? kind <;> rfl

theorem authorize_eq_ok_iff :
    c.authorize p kind verb = .ok r ↔
      c.find? kind = some r ∧ ∃ level, r.policy.required? verb = some level ∧ p.hasLevel level = true := by
  rw [authorize_eq]
  constructor
  · intro h
    split at h
    · cases h
    · next found hfound =>
      split at h
      · cases h
      · next level hlevel =>
        split at h
        · next hhas =>
          cases h
          exact ⟨hfound, level, hlevel, hhas⟩
        · cases h
  · rintro ⟨hfound, level, hlevel, hhas⟩
    simp only [hfound, hlevel, if_pos hhas]

theorem supports_of_authorize (h : c.authorize p kind verb = .ok r) : r.supports verb = true := by
  obtain ⟨-, level, hlevel, -⟩ := authorize_eq_ok_iff.mp h
  rw [ResourceKind.supports, hlevel]
  rfl

theorem authorize_congr {k k' : String} (h : c.lookup k = c.lookup k') :
    c.authorize p k verb = c.authorize p k' verb := by
  rw [authorize, authorize, h]

theorem lookup_of_authorize (h : c.authorize p kind verb = .ok r) : c.lookup kind = .ok r :=
  c.lookup_eq_ok_iff.mpr (authorize_eq_ok_iff.mp h).1

/-- What the gate has to decide, by the first of these rules that applies. -/
inductive Decides (c : Catalog) (p : Principal) (kind : String) (verb : Verb) : Outcome ResourceKind → Prop
  | unknown (h : ∀ r, c.lookup kind ≠ .ok r) : Decides c p kind verb (.error (.unsupportedKind kind))
  | unavailable {r : ResourceKind} (found : c.lookup kind = .ok r) (h : r.policy.required? verb = none) :
    Decides c p kind verb (.error (.verbUnsupported r.name verb))
  | tooLow {r : ResourceKind} {required : Level} (found : c.lookup kind = .ok r)
    (asked : r.policy.required? verb = some required) (h : ¬ required ≤ p.level) :
    Decides c p kind verb (.error (.insufficientAccess r.name verb required p.level))
  | allowed {r : ResourceKind} {required : Level} (found : c.lookup kind = .ok r)
    (asked : r.policy.required? verb = some required) (h : required ≤ p.level) : Decides c p kind verb (.ok r)

theorem decides_authorize (c : Catalog) (p : Principal) (kind : String) (verb : Verb) :
    c.Decides p kind verb (c.authorize p kind verb) := by
  rw [authorize_eq]
  cases hfind : c.find? kind with
  | none =>
    refine .unknown fun r hr => ?_
    rw [lookup_eq_error c hfind] at hr
    cases hr
  | some r =>
    have hfound := c.lookup_eq_ok_iff.mpr hfind
    cases hasked : r.policy.required? verb with
    | none =>
      simp only [hasked]
      exact .unavailable hfound hasked
    | some required =>
      simp only [hasked]
      split
      · next h => exact .allowed hfound hasked (Principal.hasLevel_iff.mp h)
      · next h => exact .tooLow hfound hasked (mt Principal.hasLevel_iff.mpr h)

theorem Decides.unique {o o' : Outcome ResourceKind} (h : c.Decides p kind verb o) (h' : c.Decides p kind verb o') :
    o = o' := by
  -- a kind has one row and a verb one level, so of two rules at most one applies
  cases h <;> cases h' <;> grind

theorem authorize_eq_iff {o : Outcome ResourceKind} : c.authorize p kind verb = o ↔ c.Decides p kind verb o := by
  constructor
  · rintro rfl
    exact decides_authorize c p kind verb
  · exact (decides_authorize c p kind verb).unique

theorem authorize_mono {p' : Principal} (h : p.level ≤ p'.level)
    (ha : c.authorize p kind verb = .ok r) : c.authorize p' kind verb = .ok r := by
  cases authorize_eq_iff.mp ha with
  | allowed found asked hle => exact authorize_eq_iff.mpr (.allowed found asked (Level.le_trans hle h))

theorem isOk_authorize_name (hr : r ∈ c.kinds) (p : Principal) (verb : Verb) :
    (c.authorize p r.name verb).isOk = r.policy.allows verb p.level := by
  -- a row is found by its own name, so its policy alone decides
  obtain ⟨i, hi⟩ := List.mem_iff_getElem?.mp hr
  rw [authorize_eq, c.find?_name hi, Policy.allows]
  cases hasked : r.policy.required? verb with
  | none =>
    simp only [hasked]
    rfl
  | some required =>
    by_cases h : required ≤ p.level
    · simp only [hasked, if_pos (Principal.hasLevel_iff.mpr h), decide_eq_true h]
      rfl
    · simp only [hasked, if_neg (mt Principal.hasLevel_iff.mp h), decide_eq_false h]
      rfl

/-! ## What is listed -/

theorem supported_sublist {level higher : Level} (h : level ≤ higher) :
    (c.supported level).Sublist (c.supported higher) := by
  refine (List.monotone_filter_right c.kinds fun r hr => ?_).map ResourceKind.name
  simp only [Bool.and_eq_true] at hr ⊢
  exact ⟨Policy.allows_mono h hr.1, Policy.allows_mono h hr.2⟩

theorem supported_eq (c : Catalog) (p : Principal) :
    c.supported p.level = (c.kinds.filter fun r =>
      (c.authorize p r.name .list).isOk && (c.authorize p r.name .get).isOk).map (·.name) := by
  rw [supported]
  refine congrArg _ (List.filter_congr fun r hr => ?_)
  rw [isOk_authorize_name hr, isOk_authorize_name hr]

/-- **The gate and the list of kinds agree.** The gate lets a verb pass exactly where the kind is found, its
policy has the verb and the principal has the level, and refuses it otherwise for the first of these that
fails. The kinds of a level are, in the order of the table, those that it is let list and get. -/
theorem gate_agrees_with_supported {kinds : List ResourceKind} {c : Catalog} (h : ofTable kinds = .ok c) :
    (∀ p kind verb,
      (∀ r, c.authorize p kind verb = .ok r ↔
        c.lookup kind = .ok r ∧ ∃ required, r.policy.required? verb = some required ∧ required ≤ p.level) ∧
      ∀ o, c.authorize p kind verb = o ↔ c.Decides p kind verb o) ∧
    (∀ (p p' : Principal) kind verb r, p.level ≤ p'.level →
      c.authorize p kind verb = .ok r → c.authorize p' kind verb = .ok r) ∧
    (∀ p : Principal, c.supported p.level =
      (kinds.filter fun r => (c.authorize p r.name .list).isOk && (c.authorize p r.name .get).isOk).map (·.name)) ∧
    ∀ level higher, level ≤ higher → (c.supported level).Sublist (c.supported higher) := by
  obtain rfl := ofTable_eq_ok_iff.mp h
  refine ⟨fun p kind verb => ⟨fun r => ?_, fun o => authorize_eq_iff⟩, fun p p' kind verb r hle ha => ?_,
    c.supported_eq, fun level higher hle => supported_sublist hle⟩
  · rw [authorize_eq_ok_iff, lookup_eq_ok_iff]
    simp only [Principal.hasLevel_iff]
  · exact authorize_mono hle ha

theorem gate_agrees_with_supported_of_partial :
    let event : ResourceKind := ⟨"event", ["ev"], ⟨"", "v1", "Event", "events"⟩, .namespaced,
      (Policy.readOnly .user).allow .get .admin, "", ""⟩
    let role : ResourceKind := ⟨"cluster_role", [], ⟨"", "v1", "ClusterRole", "clusterroles"⟩, .cluster,
      .uniform .user, "", ""⟩
    let ann : Principal := ⟨"ann", .user⟩
    ∃ c, ofTable [event, role] = .ok c ∧ c.authorize ann " Cluster-Role" .delete = .ok role ∧
      c.authorize ann "EV" .update = .error (.verbUnsupported "event" .update) ∧
      c.authorize ann "events" .get = .error (.insufficientAccess "event" .get .admin .user) ∧
      c.supported .user = ["cluster_role"] ∧ c.supported .admin = ["event", "cluster_role"] ∧
      (c.supported .user).Sublist (c.supported .admin) := by
  intro event role ann
  let c : Catalog := ⟨[event, role], by cbv⟩
  have hc : ofTable [event, role] = .ok c := ofTable_eq_ok_iff.mpr rfl
  have hfound : ∀ i r name k, c.kinds[i]? = some r → name ∈ r.names → normalName name = normalName k →
      c.lookup k = .ok r :=
    fun i r name k hi hname h => c.lookup_eq_ok_iff.mpr (c.find?_eq_some_iff.mpr ⟨i, hi, name, hname, h⟩)
  have hrole : c.lookup " Cluster-Role" = .ok role := hfound 1 role "cluster_role" _ rfl (by decide) (by cbv)
  have hshort : c.lookup "EV" = .ok event := hfound 0 event "ev" _ rfl (by decide) (by cbv)
  have hplural : c.lookup "events" = .ok event := hfound 0 event "events" _ rfl (by decide) rfl
  obtain ⟨hgate, -, -, hsub⟩ := gate_agrees_with_supported hc
  refine ⟨c, hc, ((hgate _ _ _).1 _).mpr ⟨hrole, .user, rfl, by decide⟩,
    ((hgate _ _ _).2 _).mpr (.unavailable hshort rfl), ((hgate _ _ _).2 _).mpr (.tooLow hplural rfl (by decide)),
    rfl, rfl, hsub .user .admin (by decide)⟩

end Catalog

end ClusterGateway
