import ClusterGateway.Proofs.Context.History
import Mathlib.Algebra.BigOperators.Group.Finset.Piecewise
import Mathlib.Algebra.Order.BigOperators.Group.Finset

/-!
# Counting the events of a history

Each slot is an account: every construction that began on it was refused, was dropped, or is
what the slot now holds. The slots of a context are as many as its evictions and one more, which
bounds the constructions of the context.
-/

namespace ClusterGateway

variable {κ : Type}

inductive Phase where
  | begun
  | built
  | refused
  | dropped
  | evicted
  deriving DecidableEq, Repr

def Event.phase? : Event κ → Option (Phase × SlotId)
  | .connecting s => some (.begun, s)
  | .connected s _ => some (.built, s)
  | .refused s _ => some (.refused, s)
  | .dropped s => some (.dropped, s)
  | .evicted s => some (.evicted, s)
  | .called _ _ _ => none
  | .described _ _ _ _ _ => none

namespace Journal

def tally (J : List (Event κ)) (phase : Phase) (s : SlotId) : Nat :=
  J.countP fun e => e.phase? = some (phase, s)

def tallyOf (J : List (Event κ)) (phase : Phase) (id : String) : Nat :=
  J.countP fun e => e.phase?.any fun x => x.1 = phase ∧ x.2.context = id

variable (J : List (Event κ)) (phase : Phase)

@[simp] theorem tally_nil (s : SlotId) : tally ([] : List (Event κ)) phase s = 0 := rfl

@[simp] theorem tallyOf_nil (id : String) : tallyOf ([] : List (Event κ)) phase id = 0 := rfl

theorem tally_cons (e : Event κ) (s : SlotId) :
    tally (e :: J) phase s = tally J phase s + if e.phase? = some (phase, s) then 1 else 0 := by
  simp only [tally, List.countP_cons, decide_eq_true_eq]

theorem tallyOf_cons (e : Event κ) (id : String) :
    tallyOf (e :: J) phase id =
      tallyOf J phase id + if e.phase?.any fun x => x.1 = phase ∧ x.2.context = id then 1 else 0 := by
  simp only [tallyOf, List.countP_cons]

theorem sum_hit (e : Event κ) (id : String) (n : Nat) :
    (∑ k ∈ Finset.range n, if e.phase? = some (phase, ⟨id, k⟩) then 1 else 0) =
      if e.phase?.any fun x => x.1 = phase ∧ x.2.context = id ∧ x.2.generation < n then 1 else 0 := by
  rcases h : e.phase? with _ | ⟨p, ⟨c, m⟩⟩
  · simp
  · by_cases hp : p = phase ∧ c = id
    · obtain ⟨rfl, rfl⟩ := hp
      simp
    · have hne : ∀ k, some (p, (⟨c, m⟩ : SlotId)) ≠ some (phase, ⟨id, k⟩) := by
        intro k hk
        simp only [Option.some.injEq, Prod.mk.injEq, SlotId.mk.injEq] at hk
        exact hp ⟨hk.1, hk.2.1⟩
      simp only [hne, if_false, Finset.sum_const_zero, Option.any_some]
      rw [if_neg]
      simp only [decide_eq_true_eq]
      exact fun hq => hp ⟨hq.1, hq.2.1⟩

theorem sum_tally_le (id : String) (n : Nat) :
    ∑ k ∈ Finset.range n, tally J phase ⟨id, k⟩ ≤ tallyOf J phase id := by
  induction J with
  | nil => simp
  | cons e J ih =>
    simp only [tally_cons, tallyOf_cons, Finset.sum_add_distrib, sum_hit]
    refine Nat.add_le_add ih ?_
    rcases e.phase? with _ | x
    · simp
    · by_cases hx : x.1 = phase ∧ x.2.context = id
      · simp only [Option.any_some, hx, and_self, decide_true, if_true]
        split <;> simp
      · simp only [Option.any_some, ← and_assoc, hx, false_and, decide_false]
        exact Nat.le_refl _

theorem tallyOf_eq_sum {id : String} {n : Nat} (h : ∀ k, n ≤ k → tally J phase ⟨id, k⟩ = 0) :
    tallyOf J phase id = ∑ k ∈ Finset.range n, tally J phase ⟨id, k⟩ := by
  induction J with
  | nil => simp
  | cons e J ih =>
    simp only [tally_cons] at h
    simp only [tally_cons, tallyOf_cons, Finset.sum_add_distrib, sum_hit]
    rw [ih fun k hk => Nat.eq_zero_of_add_eq_zero_right (h k hk)]
    congr 1
    rcases he : e.phase? with _ | ⟨p, ⟨c, m⟩⟩
    · simp
    · by_cases hp : p = phase ∧ c = id
      · obtain ⟨rfl, rfl⟩ := hp
        have hm : m < n := by
          by_contra hm
          have := h m (Nat.le_of_not_lt hm)
          simp [he] at this
        simp [hm]
      · simp only [Option.any_some, ← and_assoc, hp, false_and]

end Journal

/-- What a slot holds counts as one construction. -/
def Slot.weight : Slot κ → Nat
  | .empty => 0
  | .building => 1
  | .ready _ => 1

def Slot.isReady : Slot κ → Bool
  | .ready _ => true
  | _ => false

namespace Registry.History

open Journal

variable {contexts : Contexts} {J : List (Event κ)} {r : Registry κ}

theorem apply_cases {r : Registry κ} {e : Event κ} (ha : r.Allows e) (s : SlotId) :
    ((∀ phase, phase ≠ .evicted → e.phase? ≠ some (phase, s)) ∧ (r.apply e).slots s = r.slots s) ∨
    (e = .connecting s ∧ r.slots s = .empty ∧ (r.apply e).slots s = .building) ∨
    (∃ client, e = .connected s client ∧ r.slots s = .building ∧ (r.apply e).slots s = .ready client) ∨
    (∃ failure, e = .refused s failure ∧ r.slots s = .building ∧ (r.apply e).slots s = .empty) ∨
    (e = .dropped s ∧ r.slots s = .building ∧ (r.apply e).slots s = .empty) := by
  -- an event about another slot
  have other : ∀ t slot, t ≠ s → (r.put t slot).slots s = r.slots s := fun t slot h =>
    slots_put_of_ne r slot h.symm
  cases e with
  | connecting t =>
    by_cases h : t = s
    · subst h
      exact .inr (.inl ⟨rfl, ha.1, slots_put_self r t _⟩)
    · exact .inl ⟨by simp [Event.phase?, h], other t _ h⟩
  | connected t c =>
    by_cases h : t = s
    · subst h
      exact .inr (.inr (.inl ⟨c, rfl, ha, slots_put_self r t _⟩))
    · exact .inl ⟨by simp [Event.phase?, h], other t _ h⟩
  | refused t f =>
    by_cases h : t = s
    · subst h
      exact .inr (.inr (.inr (.inl ⟨f, rfl, ha, slots_put_self r t _⟩)))
    · exact .inl ⟨by simp [Event.phase?, h], other t _ h⟩
  | dropped t =>
    by_cases h : t = s
    · subst h
      exact .inr (.inr (.inr (.inr ⟨rfl, ha, slots_put_self r t _⟩)))
    · exact .inl ⟨by simp [Event.phase?, h], other t _ h⟩
  | evicted t =>
    refine .inl ⟨fun phase h ht => h ?_, rfl⟩
    simp only [Event.phase?, Option.some.injEq, Prod.mk.injEq] at ht
    exact ht.1.symm
  | called => exact .inl ⟨by simp [Event.phase?], rfl⟩
  | described => exact .inl ⟨by simp [Event.phase?], rfl⟩

theorem empty {r₀ : Registry κ} {es : List (Event κ)} (h : History r₀ es r) {s : SlotId} (hs : r₀.slots s = .empty)
    (hc : .connecting s ∉ es) : r.slots s = .empty := by
  induction h with
  | start => exact hs
  | @next es r e _ ha ih =>
    have he := ih fun hm => hc (List.mem_cons_of_mem e hm)
    rcases apply_cases ha s with ⟨_, h₁⟩ | ⟨rfl, _⟩ | ⟨c, rfl, h₀, _⟩ | ⟨f, rfl, h₀, _⟩ | ⟨rfl, h₀, _⟩
    · rw [h₁, he]
    · exact absurd List.mem_cons_self hc
    all_goals
      rw [he] at h₀
      cases h₀

theorem begun_eq (h : History (blank contexts) J r) (s : SlotId) :
    tally J .begun s = tally J .refused s + tally J .dropped s + (r.slots s).weight := by
  induction h with
  | start => rfl
  | @next J r e _ ha ih =>
    simp only [tally_cons]
    rcases apply_cases ha s with ⟨he, hs⟩ | ⟨rfl, h₀, h₁⟩ | ⟨c, rfl, h₀, h₁⟩ | ⟨f, rfl, h₀, h₁⟩ | ⟨rfl, h₀, h₁⟩
    · rw [if_neg (he _ (by simp)), if_neg (he _ (by simp)), if_neg (he _ (by simp)), hs]
      exact ih
    · rw [h₀] at ih
      simp [ih, h₁, Event.phase?, Slot.weight]
    · rw [h₀] at ih
      simp [ih, h₁, Event.phase?, Slot.weight]
    · rw [h₀] at ih
      simp only [ih, h₁, Event.phase?, Slot.weight, Option.some.injEq, Prod.mk.injEq, reduceCtorEq,
        false_and, if_false, if_true]
      omega
    · rw [h₀] at ih
      simp only [ih, h₁, Event.phase?, Slot.weight, Option.some.injEq, Prod.mk.injEq, reduceCtorEq,
        false_and, if_false, if_true]
      omega

theorem built_eq (h : History (blank contexts) J r) (s : SlotId) :
    tally J .built s = (r.slots s).isReady.toNat := by
  induction h with
  | start => rfl
  | @next J r e _ ha ih =>
    rw [tally_cons, ih]
    rcases apply_cases ha s with ⟨he, hs⟩ | ⟨rfl, h₀, h₁⟩ | ⟨c, rfl, h₀, h₁⟩ | ⟨f, rfl, h₀, h₁⟩ | ⟨rfl, h₀, h₁⟩
    · rw [if_neg (he _ (by simp)), hs, Nat.add_zero]
    all_goals
      rw [h₀, h₁]
      simp [Event.phase?, Slot.isReady]

theorem mem_connected_iff (h : History (blank contexts) J r) (s : SlotId) (client : κ) :
    .connected s client ∈ J ↔ r.slots s = .ready client := by
  constructor
  · intro hm
    induction h with
    | start => cases hm
    | @next J r e h ha ih =>
      rcases List.mem_cons.mp hm with rfl | hm
      · exact slots_put_self r s _
      · exact (single ha).ready (ih hm)
  · intro hs
    induction h with
    | start => cases hs
    | @next J r e h ha ih =>
      rcases apply_cases ha s with ⟨_, h₁⟩ | ⟨rfl, _, h₁⟩ | ⟨c, rfl, _, h₁⟩ | ⟨f, rfl, _, h₁⟩ | ⟨rfl, _, h₁⟩
      · rw [h₁] at hs
        exact List.mem_cons_of_mem _ (ih hs)
      · rw [h₁] at hs; cases hs
      · rw [h₁] at hs; cases hs
        exact List.mem_cons_self
      · rw [h₁] at hs; cases hs
      · rw [h₁] at hs; cases hs

theorem evicted_eq (h : History (blank contexts) J r) (id : String) :
    tallyOf J .evicted id = r.generation id := by
  induction h with
  | start => rfl
  | @next J r e _ _ ih =>
    rw [tallyOf_cons, ih]
    cases e with
    | evicted t =>
      rw [apply, generation_evict]
      simp [Event.phase?, eq_comm]
    | _ => simp [Event.phase?, apply]

theorem begun_beyond (h : History (blank contexts) J r) {s : SlotId}
    (hs : r.generation s.context < s.generation) : tally J .begun s = 0 := by
  induction h with
  | start => rfl
  | @next J r e h ha ih =>
    have hle := (single ha).generation_le s.context
    rw [tally_cons, ih (Nat.lt_of_le_of_lt hle hs), Nat.zero_add, if_neg]
    intro he
    cases e with
    | connecting t =>
      obtain rfl : t = s := by simpa [Event.phase?] using he
      exact absurd ha.2 (Nat.not_le_of_lt (Nat.lt_of_le_of_lt hle hs))
    | _ => simp [Event.phase?] at he

theorem empty_beyond (h : History (blank contexts) J r) {s : SlotId}
    (hs : r.generation s.context < s.generation) : r.slots s = .empty := by
  have hbegun := h.begun_eq s
  rw [h.begun_beyond hs] at hbegun
  cases hslot : r.slots s with
  | empty => rfl
  | _ => simp [hslot, Slot.weight] at hbegun

/-- Every construction of a context beyond the first is paid for by an eviction, a refusal or a
construction that was dropped. -/
theorem begun_le (h : History (blank contexts) J r) (id : String) :
    tallyOf J .begun id ≤ 1 + tallyOf J .evicted id + tallyOf J .refused id + tallyOf J .dropped id := by
  have hslot : ∀ k, tally J .begun ⟨id, k⟩ ≤ tally J .refused ⟨id, k⟩ + tally J .dropped ⟨id, k⟩ + 1 := by
    intro k
    rw [h.begun_eq]
    cases r.slots ⟨id, k⟩ <;> simp [Slot.weight]
  calc tallyOf J .begun id
      = ∑ k ∈ Finset.range (r.generation id + 1), tally J .begun ⟨id, k⟩ :=
        tallyOf_eq_sum J _ fun k hk => h.begun_beyond (s := ⟨id, k⟩) hk
    _ ≤ ∑ k ∈ Finset.range (r.generation id + 1),
          (tally J .refused ⟨id, k⟩ + tally J .dropped ⟨id, k⟩ + 1) :=
        Finset.sum_le_sum fun k _ => hslot k
    _ = ∑ k ∈ Finset.range (r.generation id + 1), tally J .refused ⟨id, k⟩ +
          ∑ k ∈ Finset.range (r.generation id + 1), tally J .dropped ⟨id, k⟩ + (r.generation id + 1) := by
        rw [Finset.sum_add_distrib, Finset.sum_add_distrib, ← Finset.card_eq_sum_ones, Finset.card_range]
    _ ≤ tallyOf J .refused id + tallyOf J .dropped id + (tallyOf J .evicted id + 1) := by
        rw [h.evicted_eq]
        exact Nat.add_le_add_right (Nat.add_le_add (sum_tally_le J _ id _) (sum_tally_le J _ id _)) _
    _ = 1 + tallyOf J .evicted id + tallyOf J .refused id + tallyOf J .dropped id := by omega

end Registry.History

end ClusterGateway
