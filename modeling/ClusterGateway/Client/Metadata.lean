import ClusterGateway.Client.Timestamp
import ClusterGateway.Json.Record

/-!
# Metadata of objects

The metadata of an object has a fixed set of fields, each of one shape. Reading it checks the
shapes, drops nulls and fields that it does not know, and writes moments in one form.
-/

namespace ClusterGateway.Metadata

inductive Leaf where
  | text
  /-- A signed integer of 64 bits. -/
  | integer
  | flag
  | any
  | time
  deriving DecidableEq, Repr

inductive Shape where
  | leaf (l : Leaf)
  | texts
  | textMap
  /-- Records of leaves, where the fields in `always` are written even when they are missing. -/
  | records (fields : List (String × Leaf)) (always : List String)
  deriving Repr

def int64? (v : Json) : Option Int := do
  let n ← v.int?
  if -Int.pow 2 63 ≤ n ∧ n < Int.pow 2 63 then some n else none

def Leaf.clean? (l : Leaf) (v : Json) : Option Json :=
  match l with
  | text => v.string?.map .str
  | integer => (int64? v).map .ofInt
  | flag => v.bool?.map .bool
  | any => some v
  | time => (v.string?.bind Timestamp.parse?).map fun t => .str t.render

def cleanText? : Json → Option Json := Leaf.text.clean?

def cleanFields? (clean? : α → Json → Option Json) (known : List (String × α))
    (fields : List (String × Json)) : Option (List (String × Json)) :=
  known.foldlM (fun done (name, shape) =>
    match Json.Fields.get? name fields with
    | none | some .null => some done
    | some v => (clean? shape v).map fun v => Json.Fields.insert name v done) []

def cleanRecord? (known : List (String × Leaf)) (always : List String) (v : Json) : Option Json := do
  let done ← cleanFields? Leaf.clean? known (← v.fields?)
  some (.obj (always.foldl (fun done name =>
    if (Json.Fields.get? name done).isSome then done else Json.Fields.insert name (.str "") done) done))

def Shape.clean? (s : Shape) (v : Json) : Option Json :=
  match s with
  | leaf l => l.clean? v
  | texts => do some (.arr (← (← v.items?).mapM cleanText?))
  | textMap => do
    some (.obj (← (← v.fields?).mapM fun (name, v) => (cleanText? v).map fun v => (name, v)))
  | records known always => do some (.arr (← (← v.items?).mapM (cleanRecord? known always)))

def ownerFields : List (String × Leaf) :=
  [("apiVersion", .text), ("blockOwnerDeletion", .flag), ("controller", .flag), ("kind", .text),
    ("name", .text), ("uid", .text)]

def managerFields : List (String × Leaf) :=
  [("apiVersion", .text), ("fieldsType", .text), ("fieldsV1", .any), ("manager", .text),
    ("operation", .text), ("subresource", .text), ("time", .time)]

def objectFields : List (String × Shape) :=
  [("annotations", .textMap), ("creationTimestamp", .leaf .time),
    ("deletionGracePeriodSeconds", .leaf .integer), ("deletionTimestamp", .leaf .time),
    ("finalizers", .texts), ("generateName", .leaf .text), ("generation", .leaf .integer),
    ("labels", .textMap), ("managedFields", .records managerFields []), ("name", .leaf .text),
    ("namespace", .leaf .text),
    ("ownerReferences", .records ownerFields ["apiVersion", "kind", "name", "uid"]),
    ("resourceVersion", .leaf .text), ("selfLink", .leaf .text), ("uid", .leaf .text)]

def listFields : List (String × Shape) :=
  [("continue", .leaf .text), ("remainingItemCount", .leaf .integer), ("resourceVersion", .leaf .text),
    ("selfLink", .leaf .text)]

def read? (v : Json) : Option (List (String × Json)) :=
  v.fields?.bind (cleanFields? Shape.clean? objectFields)

def isListMetadata (v : Json) : Bool :=
  (v.fields?.bind (cleanFields? Shape.clean? listFields)).isSome

end ClusterGateway.Metadata
