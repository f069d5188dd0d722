import ClusterGateway.Proofs.Gateway.Keeping
import ClusterGateway.Simulated.Fleet

/-!
# The clusters in memory keep objects

As long as calls neither hang nor are told to fail, what a client finds under a key is what its
context has stored there.
-/

namespace ClusterGateway.Simulated

namespace Store

theorem get?_insertAt (k : Key) (v : Json) (objects : List (Key × Json)) (revision : Nat) :
    (⟨revision, insertAt k v objects⟩ : Store).get? k = some v := by
  induction objects with
  | nil => simp [get?, insertAt]
  | cons entry rest ih =>
    obtain ⟨l, w⟩ := entry
    unfold insertAt
    split
    · simp [get?]
    · split
      · simp [get?]
      · next hne _ =>
        rw [get?, List.find?_cons_of_neg (by simpa using hne)]
        exact ih

theorem get?_write (s : Store) (k : Key) (object : Json) :
    (s.write k object).2.get? k = some (s.write k object).1 :=
  get?_insertAt _ _ _ _

theorem get?_erase (s : Store) (k : Key) : (s.erase k).get? k = none := by
  simp [get?, erase, List.find?_eq_none]

theorem nameFor_of_metadata? (s : Store) {body : Json} {name : String}
    (h : Manifest.metadata? body "name" = some name) : s.nameFor body = name := by
  have hfield := (Manifest.metadata?_eq_some_iff.mp h).1
  have htext : text body "name" = some name := by
    rw [text, ← Manifest.field?, hfield]
    rfl
  rw [nameFor, htext]

end Store

/-- Calls are answered, and none is told to fail. -/
def World.IsUp (w : World) : Prop := w.hangCalls = false ∧ w.callFailures = []

/-- The key of the store, which knows no group and no version. -/
def storeKey (k : ObjectKey) : Key := ⟨k.resource.plural, k.ns.getD "", k.name⟩

def object (client : Client) (k : ObjectKey) (w : World) : Option Json :=
  (w.store client.context).get? (storeKey k)

theorem World.store_putStore (w : World) (context : String) (s : Store) :
    (w.putStore context s).store context = s := by
  simp [store, putStore]

theorem answer?_of_isUp {d : Describer} {client : Client} {c : Call} {w : World} (h : w.IsUp) :
    (fleet d).answer? client c w =
      some (((w.store client.context).perform c).1, w.putStore client.context ((w.store client.context).perform c).2) := by
  obtain ⟨hhang, hfail⟩ := h
  simp [Fleet.answer?, fleet, call, hhang, hfail, Reply.await?]

theorem inTime_of_isUp {d : Describer} {w : World} (h : w.IsUp) (client : Client) (c : Call)
    (deadline : Option Instant) (clock : Instant) : ((fleet d).call client c w).1.InTime deadline clock := by
  obtain ⟨hhang, hfail⟩ := h
  simp [fleet, call, hhang, hfail, Reply.InTime]

theorem isUp_of_build {c : ClusterContext} {w : World} (h : w.IsUp) : (build c w).2.IsUp := by
  unfold build
  split
  · exact h
  · split
    · exact h
    · exact h

theorem isUp_of_connect {d : Describer} {c : ClusterContext} {w w' : World} {outcome : Outcome Client} (hup : w.IsUp)
    (h : ((fleet d).connect c w).1.await? ((fleet d).connect c w).2 = some (outcome, w')) : w'.IsUp := by
  simp only [fleet, connect] at h
  split at h
  · cases h
  · split at h
    · have hbuilt : (build c w).2 = w' := congrArg Prod.snd (Option.some.inj h)
      exact hbuilt ▸ isUp_of_build hup
    · cases h
      exact isUp_of_build hup

namespace Store

variable {s : Store} {resource : ApiResource} {ns : Option String} {name : String}

theorem perform_create {body v : Json} (hname : Manifest.metadata? body "name" = some name)
    (h : (s.perform ⟨resource, ns, .create body⟩).1 = .ok v) :
    (s.perform ⟨resource, ns, .create body⟩).2.get? ⟨resource.plural, ns.getD "", name⟩ = some v := by
  simp only [perform, nameFor_of_metadata? s hname] at h ⊢
  split
  · next hsome =>
    rw [if_pos hsome] at h
    cases h
  · next hnone =>
    rw [if_neg hnone] at h
    cases h
    exact get?_write _ _ _

theorem perform_get {stored : Json} (h : s.get? ⟨resource.plural, ns.getD "", name⟩ = some stored) :
    (s.perform ⟨resource, ns, .get name⟩).1 = .ok stored := by
  simp only [perform, h]

theorem perform_delete {v : Json} (h : (s.perform ⟨resource, ns, .delete name⟩).1 = .ok v) :
    (s.perform ⟨resource, ns, .delete name⟩).2.get? ⟨resource.plural, ns.getD "", name⟩ = none := by
  simp only [perform] at h ⊢
  split
  · exact get?_erase _ _
  · next hnone =>
    rw [if_neg hnone] at h
    cases h

theorem perform_delete_of_missing (h : s.get? ⟨resource.plural, ns.getD "", name⟩ = none) :
    (s.perform ⟨resource, ns, .delete name⟩).1 = .error (missing ⟨resource.plural, ns.getD "", name⟩) := by
  simp [perform, h]

end Store

theorem fleet_keeps (d : Describer) : (fleet d).Keeps World.IsUp object where
  connected := isUp_of_connect
  created hup hname h := by
    rw [answer?_of_isUp hup] at h
    obtain ⟨hok, rfl⟩ := Prod.mk.inj (Option.some.inj h)
    refine ⟨hup, ?_⟩
    rw [object, World.store_putStore]
    exact ⟨_, Store.perform_create hname hok⟩
  got hup hstored h := by
    rw [answer?_of_isUp hup] at h
    obtain ⟨rfl, rfl⟩ := Prod.mk.inj (Option.some.inj h)
    exact Store.perform_get hstored
  deleted hup h := by
    rw [answer?_of_isUp hup] at h
    obtain ⟨hok, rfl⟩ := Prod.mk.inj (Option.some.inj h)
    refine ⟨hup, ?_⟩
    rw [object, World.store_putStore]
    exact Store.perform_delete hok
  missing hup hmissing h := by
    rw [answer?_of_isUp hup] at h
    obtain ⟨rfl, rfl⟩ := Prod.mk.inj (Option.some.inj h)
    exact ⟨_, Store.perform_delete_of_missing hmissing⟩

end ClusterGateway.Simulated
