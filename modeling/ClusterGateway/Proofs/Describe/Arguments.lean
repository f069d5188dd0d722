import ClusterGateway.Proofs.Gateway.Completion
import ClusterGateway.Proofs.Gateway.Ownership
import ClusterGateway.Proofs.Operation.Accepted
import ClusterGateway.Proofs.Operation.Addressed
import ClusterGateway.Simulated.Fleet
import Mathlib.Data.List.DropRight

/-!
# What the describe tool is told

Of what a caller writes a namespace comes before the separator, as the value of its flag, and a name comes
after it. Both were checked by then, so the tool reads neither as a flag, and tells any two objects of a kind
apart.
-/

namespace ClusterGateway

open Address

namespace DescribeTool

variable (t : DescribeTool) (c : ClusterContext) {kind : ResourceKind} {ns ns' : Option String} {name name' : String}

def opening (ns : Option String) : List String :=
  t.args ++ ["describe"] ++ ns.elim [] (fun label => ["-n", label]) ++ c.flags

theorem arguments_eq (h : Placed kind ns) (name : String) :
    t.arguments c kind ns name = t.opening c ns ++ ["--", kind.commandName, name] := by
  rcases h with ⟨hkind, label, rfl, -⟩ | ⟨hkind, rfl⟩
  · simp only [arguments, namespaceFlags, hkind, if_true, opening, Option.elim_some]
  · simp only [arguments, namespaceFlags, hkind, Bool.false_eq_true, if_false, opening, Option.elim_none]

theorem rdrop_arguments (h : Placed kind ns) (name : String) :
    (t.arguments c kind ns name).rdrop 3 = t.opening c ns := by
  rw [t.arguments_eq c h]
  exact List.rdrop_append_length

theorem opening_inj : t.opening c ns = t.opening c ns' ↔ ns = ns' := by
  refine ⟨fun h => ?_, fun h => h ▸ rfl⟩
  have hflag := List.append_cancel_left (List.append_cancel_right h)
  cases ns <;> cases ns' <;> simp at hflag ⊢
  exact hflag

theorem arguments_inj (h : Placed kind ns) (h' : Placed kind ns') :
    t.arguments c kind ns name = t.arguments c kind ns' name' ↔ ns = ns' ∧ name = name' := by
  rw [t.arguments_eq c h, t.arguments_eq c h', ← t.opening_inj c]
  constructor
  · intro he
    obtain ⟨hopening, hobject⟩ := List.append_inj' he rfl
    simp only [List.cons.injEq, true_and, and_true] at hobject
    exact ⟨hopening, hobject⟩
  · rintro ⟨hopening, rfl⟩
    rw [hopening]

end DescribeTool

namespace Pool

variable {σ κ : Type} [DecidableEq κ]

/-- In this run the request has the tool run, on this object and for this context. -/
def Describes (g : Settings) (f : Fleet σ κ) (jobs : List Job) (s : State σ κ) (moves : List (Move κ)) (q : Request)
    (context : ClusterContext) (kind : ResourceKind) (ns : Option String) (name : String) : Prop :=
  ∃ i n pr client, jobs[i]? = some (.execute pr q) ∧
    (ofJobs jobs s).Begins g f moves i n kind context client (.describe ns name)

section
variable {g : Settings} {f : Fleet σ κ} {jobs : List Job} {s : State σ κ} {moves : List (Move κ)} {q : Request}
  {context : ClusterContext} {kind : ResourceKind} {ns : Option String} {name : String}

theorem Describes.select (h : Describes g f jobs s moves q context kind ns name) :
    s.registry.contexts.select q.context = .ok context := by
  obtain ⟨i, n, pr, client, hjob, hbegins⟩ := h
  obtain ⟨t, ht, ⟨_, hst, -⟩, -⟩ := hbegins.starts
  have haccounts := accounts_after g f jobs s moves n ht
  have hjobs := haccounts.serves.job
  rw [haccounts.ticket, hjob] at hjobs
  have hselect := select_of_context? jobs s n ht (by rw [hst]; rfl)
  rw [← Option.some.inj hjobs] at hselect
  exact hselect

theorem Describes.target (h : Describes g f jobs s moves q context kind ns name) :
    targetNamespace kind q.ns = .ok ns ∧ targetName kind q.name = .ok name := by
  obtain ⟨i, n, pr, client, hjob, hbegins⟩ := h
  obtain ⟨pr', q', hjob', -, heffect⟩ := hbegins.request
  cases hjob.symm.trans hjob'
  have hverb : q.verb = .describe := (Effect.verb_of_ofRequest heffect).symm
  obtain ⟨-, hplan⟩ := Effect.ofRequest_eq_ok_iff.mp heffect
  simp only [Effect.plan, hverb] at hplan
  obtain ⟨ns', name', hns, hname, he⟩ := Effect.planDescribe_eq_ok_iff.mp hplan
  cases he
  exact ⟨hns, hname⟩

theorem describes_of_notes {n i : Nat} {row : String}
    (h : (ofJobs jobs s).Notes g f moves n (.described i context row ns name)) :
    ∃ pr q kind, jobs[i]? = some (.execute pr q) ∧ g.catalog.authorize pr q.kind q.verb = .ok kind ∧
      kind.name = row ∧ Describes g f jobs s moves q context kind ns name := by
  obtain ⟨j, kind, context', client, e, he, hbegins⟩ := begins_of_notes h rfl
  obtain ⟨pr, q, hjob, ha, -⟩ := hbegins.request
  cases e with
  | call c => cases he
  | describe ns' name' =>
    cases he
    exact ⟨pr, q, kind, hjob, ha, rfl, i, n, pr, client, hjob, hbegins⟩

theorem Describes.placed (h : Describes g f jobs s moves q context kind ns name) : Placed kind ns :=
  placed_of_targetNamespace h.target.1

end

/-- **What a caller writes is never a flag of the describe tool.** In every run what a request names stands after
the separator, but for the label behind the flag for the namespace, and two requests on a context and a kind
have the tool told the same exactly if they are about the same object. -/
theorem caller_text_stays_positional (t : DescribeTool) (g : Settings) (f : Fleet σ κ) (jobs : List Job)
    (s : State σ κ) (moves : List (Move κ)) {q : Request} {context : ClusterContext} {kind : ResourceKind}
    {ns : Option String} {name : String} (h : Describes g f jobs s moves q context kind ns name) :
    let args := t.arguments context kind ns name
    s.registry.contexts.select q.context = .ok context ∧
      args = t.args ++ ["describe"] ++ ns.elim [] (fun label => ["-n", label]) ++ context.flags ++
        ["--", kind.commandName, name] ∧
      (ns.isSome ↔ kind.isNamespaced = true) ∧
      (∀ label, ns = some label → IsLabel label ∧ q.ns.map Text.trim = some label) ∧
      q.name.map Text.trim = some name ∧ IsObjectName name ∧ name.toList.head? ≠ some '-' ∧
      ∀ (g' : Settings) (f' : Fleet σ κ) jobs' s' moves' q' context' kind' ns' name',
        Describes g' f' jobs' s' moves' q' context' kind' ns' name' →
          let args' := t.arguments context' kind' ns' name'
          (context' = context → ns' = ns → args'.rdrop 3 = args.rdrop 3) ∧
            (context' = context → kind' = kind → (args' = args ↔ ns' = ns ∧ name' = name)) := by
  intro args
  obtain ⟨hns, hname⟩ := h.target
  obtain ⟨hgiven, hname⟩ := targetName_eq_ok_iff.mp hname
  obtain ⟨given, hq, htrim, -⟩ := Text.nonBlank?_eq_some_iff.mp hgiven
  refine ⟨h.select, t.arguments_eq context h.placed name, ?_, ?_, ?_, hname, hname.head_ne_dash, ?_⟩
  · rcases h.placed with ⟨hkind, label, rfl, -⟩ | ⟨hkind, rfl⟩ <;> simp [hkind]
  · rintro label rfl
    rcases targetNamespace_eq_ok_iff.mp hns with ⟨-, _, hsame, hlabel, hdns⟩ | ⟨-, hnone⟩
    · cases hsame
      obtain ⟨raw, hraw, htrimmed, -⟩ := Text.nonBlank?_eq_some_iff.mp hlabel
      exact ⟨hdns, by rw [hraw, Option.map_some, htrimmed]⟩
    · cases hnone
  · rw [hq, Option.map_some, htrim]
  · intro g' f' jobs' s' moves' q' context' kind' ns' name' h' args'
    constructor
    · rintro rfl rfl
      rw [t.rdrop_arguments _ h'.placed, t.rdrop_arguments _ h.placed]
    · rintro rfl rfl
      exact t.arguments_inj _ h'.placed h.placed

theorem caller_text_stays_positional_of_blanks :
    let pod : ResourceKind := ⟨"pod", [], ⟨"", "v1", "Pod", "pods"⟩, .namespaced, .uniform .reader, "", ""⟩
    let g : Settings := ⟨⟨[pod], by cbv⟩, ⟨[]⟩, none⟩
    let f := Simulated.fleet .echo
    let first : ClusterContext := ⟨"default", .kubeconfig "/etc/kube" (some "main")⟩
    let s : State Simulated.World Simulated.Client :=
      ⟨.start ⟨first, [], by decide⟩ ⟨"default", 1⟩, .empty, 0, []⟩
    let q (name : String) : Request := { verb := .describe, kind := "pod", ns := some " apps\n", name := some name }
    let jobs : List Job := [.execute ⟨"ann", .reader⟩ (q "\tweb-0 "), .execute ⟨"ann", .reader⟩ (q "a=--all")]
    let moves : List (Move Simulated.Client) :=
      [.advance 0, .advance 1, .advance 0, .advance 1, .advance 0, .advance 1]
    let t : DescribeTool := ⟨"kubectl", ["-v", "2"]⟩
    let opening := ["-v", "2", "describe", "-n", "apps", "--kubeconfig", "/etc/kube", "--context", "main"]
    Describes g f jobs s moves (q "\tweb-0 ") first pod (some "apps") "web-0" ∧
      Describes g f jobs s moves (q "a=--all") first pod (some "apps") "a=--all" ∧
      t.arguments first pod (some "apps") "web-0" = opening ++ ["--", "pods", "web-0"] ∧
      t.arguments first pod (some "apps") "a=--all" = opening ++ ["--", "pods", "a=--all"] ∧
      IsObjectName "web-0" := by
  intro pod g f first s q jobs moves t opening
  have hdescribes : ∀ (n i : Nat) name row, jobs[i]? = some (.execute ⟨"ann", .reader⟩ (q row)) →
      (ofJobs jobs s).Notes g f moves n (.described i first "pod" (some "apps") name) →
      Describes g f jobs s moves (q row) first pod (some "apps") name := by
    intro n i name row hjob hnotes
    obtain ⟨pr, q', kind, hjob', ha, -, h⟩ := describes_of_notes hnotes
    cases hjob.symm.trans hjob'
    have hpod : g.catalog.authorize ⟨"ann", .reader⟩ "pod" .describe = .ok pod := by decide +kernel
    cases hpod.symm.trans ha
    exact h
  have hweb := hdescribes 4 0 "web-0" "\tweb-0 " rfl (by decide +kernel)
  have hall := hdescribes 5 1 "a=--all" "a=--all" rfl (by decide +kernel)
  obtain ⟨-, hargs, -, -, -, hname, -⟩ := caller_text_stays_positional t g f jobs s moves hweb
  obtain ⟨-, hargs', -⟩ := caller_text_stays_positional t g f jobs s moves hall
  exact ⟨hweb, hall, hargs, hargs', hname⟩

end Pool

end ClusterGateway
