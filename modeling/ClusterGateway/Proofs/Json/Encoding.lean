import ClusterGateway.Context.Basic
import ClusterGateway.Envelope
import ClusterGateway.Request
import ClusterGateway.Access.Principal
import ClusterGateway.Proofs.Json.Fields

/-!
# Encoded values come back

A record is decoded field by field, so it comes back if each of its fields does. A field that may be
missing is left out or written as null, and both are read as missing. That is no loss as long as
nothing else is written as null, and of all the fields only the payload of a request can be.
-/

namespace ClusterGateway

/-! ## Fields of a record -/

namespace Json

variable {α : Type} {read : Json → Option α} {write : α → Json}

theorem record?_ofFields (names : List String) (fields : List (String × Json)) :
    (ofFields fields).record? names = some fun name => Fields.get? name fields.reverse := by
  simp only [ofFields, record?, Fields.get?_ofList]

theorem fields?_ofFields (fields : List (String × Json)) :
    (ofFields fields).fields? = some (Fields.ofList fields) := rfl

theorem string?_str (s : String) : string? (.str s) = some s := rfl

theorem get?_ofFields (fields : List (String × Json)) (name : String) :
    (ofFields fields).get? name = Fields.get? name fields.reverse :=
  Fields.get?_ofList name fields

theorem optional?_some {v : Json} (h : v ≠ .null) : optional? read (some v) = (read v).map some := by
  cases v with
  | null => exact absurd rfl h
  | _ => rfl

theorem optional?_write (hread : ∀ a, read (write a) = some a) (hnull : read .null = none) (a : α) :
    optional? read (some (write a)) = some (some a) := by
  -- nothing is read from null, so it is not what was written
  have hne : write a ≠ .null := by
    intro h
    have ha := hread a
    rw [h, hnull] at ha
    cases ha
  rw [optional?_some hne, hread, Option.map_some]

theorem optional?_map (hread : ∀ a, read (write a) = some a) (hnull : read .null = none) (o : Option α) :
    optional? read (o.map write) = some o := by
  cases o with
  | none => rfl
  | some a => exact optional?_write hread hnull a

theorem optional?_ofOption (hread : ∀ a, read (write a) = some a) (hnull : read .null = none) (o : Option α) :
    optional? read (some (ofOption write o)) = some o := by
  cases o with
  | none => rfl
  | some a => exact optional?_write hread hnull a

theorem optional?_text (o : Option String) : optional? string? (some (ofOption str o)) = some o :=
  optional?_ofOption string?_str rfl o

theorem optional?_any (o : Option Json) :
    optional? some (some (o.getD .null)) = some (o.filter fun v => !v.isNull) := by
  cases o with
  | none => rfl
  | some v => cases v <;> rfl

end Json

open Json

/-! ## Record by record -/

theorem Principal.ofJson?_toJson (p : Principal) : ofJson? p.toJson = some p := by
  simp [ofJson?, toJson, record?_ofFields, Fields.get?, string?, tag?]

namespace Fault

theorem get?_encoded (f : Fault) :
    ∃ field, f.toJson.record? ["kind", "message", "detail", "code"] = some field ∧
      field "kind" = some (.str f.category.name) ∧ field "message" = some (.str f.message) ∧
      field "detail" = f.detail.map .str ∧ field "code" = f.code.map fun c => .ofNat c.toNat := by
  refine ⟨_, record?_ofFields _ _, ?_⟩
  cases f.detail <;> cases f.code <;> simp [Fields.get?]

theorem ofJson?_toJson (f : Fault) : ofJson? f.toJson = some f := by
  obtain ⟨field, hfield, hkind, hmessage, hdetail, hcode⟩ := f.get?_encoded
  have hdetail' : optional? string? (f.detail.map .str) = some f.detail :=
    optional?_map string?_str rfl f.detail
  have hcode' : optional? uint16? (f.code.map fun c => .ofNat c.toNat) = some f.code :=
    optional?_map uint16?_ofNat rfl f.code
  simp [ofJson?, hfield, hkind, hmessage, hdetail, hcode, hdetail', hcode', tag?, string?]

end Fault

theorem Envelope.ofJson?_toJson (e : Envelope) : ofJson? e.toJson = some e := by
  cases e with
  -- the tag tells a value from a fault, so the value may be null as well
  | result value => rfl
  | error fault => simp [ofJson?, toJson, single?, Fault.ofJson?_toJson]

namespace ClusterContext

theorem way_ofJson?_tag (w : Connection.Way) : Connection.Way.ofJson? (.str w.tag) = some w := by
  cases w <;> decide

theorem ofJson?_toJson (c : ClusterContext) : ofJson? c.toJson = some c := by
  obtain ⟨id, connection⟩ := c
  cases connection with
  | inCluster =>
    simp [ofJson?, toJson, fields?_ofFields, get?_ofFields, Fields.get?, Connection.way, way_ofJson?_tag, string?]
  | kubeconfig path context =>
    simp [ofJson?, toJson, fields?_ofFields, get?_ofFields, Fields.get?, Connection.way, way_ofJson?_tag, string?,
      optional?_text]

end ClusterContext

namespace Request

theorem ofJson?_toJson (q : Request) :
    ofJson? q.toJson = some { q with payload := q.payload.filter fun v => !v.isNull, deadline := none } := by
  simp [ofJson?, toJson, record?_ofFields, Fields.get?, string?, tag?, optional?_text, optional?_any]

theorem filter_isNull_eq_self_iff {o : Option Json} : (o.filter fun v => !v.isNull) = o ↔ o ≠ some .null := by
  cases o with
  | none => simp
  | some v => cases v <;> simp [Json.isNull]

end Request

/-- **What is encoded is decoded as it was.** Every envelope, every fault, every principal and every
context comes back from its encoding, whatever text and whatever values are in it. A request does
exactly if it has no deadline, which is not encoded, and no null for a payload, which cannot be told
from none. -/
theorem encoded_values_come_back :
    (∀ e : Envelope, Envelope.ofJson? e.toJson = some e) ∧
    (∀ f : Fault, Fault.ofJson? f.toJson = some f) ∧
    (∀ p : Principal, Principal.ofJson? p.toJson = some p) ∧
    (∀ c : ClusterContext, ClusterContext.ofJson? c.toJson = some c) ∧
    ∀ q : Request, Request.ofJson? q.toJson = some q ↔ q.deadline = none ∧ q.payload ≠ some .null := by
  refine ⟨Envelope.ofJson?_toJson, Fault.ofJson?_toJson, Principal.ofJson?_toJson, ClusterContext.ofJson?_toJson,
    fun q => ?_⟩
  rw [Request.ofJson?_toJson, ← Request.filter_isNull_eq_self_iff]
  obtain ⟨verb, kind, context, ns, name, payload, deadline⟩ := q
  simp [and_comm, eq_comm]

end ClusterGateway
