import ClusterGateway.Operation.Address

/-!
# Objects to be written

Before an object is sent, its type is filled in or checked and its namespace is settled: its
own one goes before that of the request, and a kind without namespaces loses it. All else stays
as it was handed in.
-/

namespace ClusterGateway.Manifest

open Json

def metadata? (object : Json) (field : String) : Option String :=
  match (object.get? "metadata").bind (·.get? field) with
  | some (.str s) => if s.isEmpty then none else some s
  | _ => none

/-- Fills in a type field that is no string, and checks one that is. -/
def settleType (r : ResourceKind) (field expected : String) (object : List (String × Json)) :
    Checked (List (String × Json)) :=
  match Fields.get? field object with
  | some (.str actual) =>
    if actual = expected then .ok object
    else .error (.typeMismatch field actual r.name expected)
  | _ => .ok (Fields.insert field (.str expected) object)

/-- The metadata, where missing and null are the same as empty. -/
def metadataFields (object : List (String × Json)) : Checked (List (String × Json)) :=
  match Fields.get? "metadata" object with
  | none | some .null => .ok []
  | some (.obj fields) => .ok fields
  | some _ => .error .metadataNotObject

def ownNamespace? (metadata : List (String × Json)) : Option String :=
  Text.nonBlank? ((Fields.get? "namespace" metadata).bind Json.string?)

def settleNamespace (r : ResourceKind) (ns : Option String) (metadata : List (String × Json)) :
    Checked String :=
  match (ownNamespace? metadata).or (Text.nonBlank? ns) with
  | none => .error (.namespaceRequired r.name)
  | some ns => Address.checkNamespace ns

/-- The namespace of the object and the object as it is sent. -/
def prepare (r : ResourceKind) (ns : Option String) (payload : Json) : Checked (Option String × Json) :=
  match payload with
  | .obj object => do
    let object ← settleType r "apiVersion" r.apiVersion object
    let object ← settleType r "kind" r.api.kind object
    let metadata ← metadataFields object
    if r.isNamespaced then
      let ns ← settleNamespace r ns metadata
      let metadata := Fields.insert "namespace" (.str ns) metadata
      return (some ns, .obj (Fields.insert "metadata" (.obj metadata) object))
    else
      let metadata := Fields.erase "namespace" metadata
      return (none, .obj (Fields.insert "metadata" (.obj metadata) object))
  | _ => .error .payloadNotObject

end ClusterGateway.Manifest
