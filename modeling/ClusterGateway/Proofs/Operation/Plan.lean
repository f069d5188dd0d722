import ClusterGateway.Operation.Effect
import Mathlib

/-!
# What requests are planned as

A plan is an effect of the verb that was asked for, on the resource of the kind. What stands
against a plan is never a failed connection.
-/

namespace ClusterGateway

/-! ## Checks -/

def Checked.Yields {α : Type} (x : Checked α) (P : α → Prop) : Prop := ∀ a, x = .ok a → P a

namespace Checked.Yields

variable {α β : Type} {P : β → Prop}

theorem error (r : Refusal) : Yields (.error r) P := fun _ h => by cases h

theorem pure {b : β} (h : P b) : Yields (Pure.pure b) P := fun _ hb => by cases hb; exact h

theorem bind {x : Checked α} {f : α → Checked β} (h : ∀ a, Yields (f a) P) : Yields (x >>= f) P := by
  intro b hb
  cases x with
  | error r => cases hb
  | ok a => exact h a b hb

theorem guard {c : Prop} [Decidable c] {r : Refusal} {x : Checked β} (h : Yields x P) :
    Yields (if c then (.error r : Checked Unit) >>= fun _ => x else x) P := by
  split
  · exact .bind fun _ => h
  · exact h

end Checked.Yields

/-! ## Verbs -/

def Call.Action.verb : Call.Action → Verb
  | .list => .list
  | .get _ => .get
  | .create _ => .create
  | .replace _ _ => .update
  | .delete _ => .delete

namespace Effect

def verb : Effect → Verb
  | .call c => c.action.verb
  | .describe _ _ => .describe

/-- The effect is this verb, and a call goes to the resource of the kind. -/
def Fits (r : ResourceKind) (verb : Verb) (e : Effect) : Prop :=
  e.verb = verb ∧ ∀ c, e = .call c → c.resource = r.api

variable (r : ResourceKind) (q : Request)

theorem fits_call (ns : Option String) (action : Call.Action) :
    Fits r action.verb (.call ⟨r.api, ns, action⟩) :=
  ⟨rfl, fun _ h => by cases h; rfl⟩

theorem planList_fits : (planList r q).Yields (Fits r .list) := by
  unfold planList
  exact .bind fun ns => .pure (fits_call r ns _)

theorem planGet_fits : (planGet r q).Yields (Fits r .get) := by
  unfold planGet
  exact .bind fun ns => .bind fun _ => .pure (fits_call r ns _)

theorem planDescribe_fits : (planDescribe r q).Yields (Fits r .describe) := by
  unfold planDescribe
  refine .bind fun ns => .bind fun name => .pure ⟨rfl, fun _ h => ?_⟩
  cases h

theorem planCreate_fits : (planCreate r q).Yields (Fits r .create) := by
  unfold planCreate
  split
  · refine .bind fun (ns, body) => ?_
    have hdone : Checked.Yields (pure (.call ⟨r.api, ns, .create body⟩)) (Fits r .create) :=
      .pure (fits_call r ns _)
    simp only
    split
    · exact .bind fun _ => hdone
    · exact .guard hdone
  · exact .error _

theorem planUpdate_fits : (planUpdate r q).Yields (Fits r .update) := by
  unfold planUpdate
  split
  · refine .bind fun (ns, body) => ?_
    simp only
    split
    · next name _ =>
      have hdone : Checked.Yields (pure (.call ⟨r.api, ns, .replace name body⟩)) (Fits r .update) :=
        .pure (fits_call r ns _)
      refine .bind fun _ => .guard ?_
      split
      · exact .guard hdone
      · exact hdone
    · exact .error _
  · exact .error _

theorem planDelete_fits : (planDelete r q).Yields (Fits r .delete) := by
  unfold planDelete
  exact .bind fun _ => .bind fun ns => .pure (fits_call r ns _)

theorem plan_fits : (plan r q).Yields (Fits r q.verb) := by
  unfold plan
  cases q.verb with
  | list => exact planList_fits r q
  | get => exact planGet_fits r q
  | describe => exact planDescribe_fits r q
  | create => exact planCreate_fits r q
  | update => exact planUpdate_fits r q
  | delete => exact planDelete_fits r q

/-! ## What a request comes to -/

variable {r q}

theorem verb_of_ofRequest {e : Effect} (h : ofRequest r q = .ok e) : e.verb = q.verb := by
  unfold ofRequest at h
  split at h
  · cases hp : plan r q with
    | error refusal =>
      rw [hp] at h
      cases h
    | ok e' =>
      rw [hp] at h
      cases h
      exact (plan_fits r q e hp).1
  · cases h

theorem not_isConnection_of_ofRequest {failure : Failure} (h : ofRequest r q = .error failure) :
    failure.isConnection = false := by
  unfold ofRequest at h
  split at h
  · cases hp : plan r q with
    | error refusal =>
      rw [hp] at h
      cases h
      rfl
    | ok e => simp [hp, Except.mapError] at h
  · cases h
    rfl

end Effect

end ClusterGateway
