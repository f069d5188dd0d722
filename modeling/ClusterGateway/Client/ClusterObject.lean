import ClusterGateway.Client.Metadata
import ClusterGateway.Resource.Basic

/-!
# Objects on the wire

An object is its type, its metadata, and fields of which nothing is known. The type counts only
when its version and its kind are both texts; they are looked for in the order in which they
are written, and the search stops at the first that is no text. What was found is then lost.
-/

namespace ClusterGateway

structure TypeName where
  apiVersion : String
  kind : String
  deriving DecidableEq, Repr

def ApiResource.typeName (r : ApiResource) : TypeName := ⟨r.apiVersion, r.kind⟩

structure ClusterObject where
  type? : Option TypeName
  metadata : List (String × Json)
  others : List (String × Json)
  deriving DecidableEq, Repr

namespace ClusterObject

structure TypeSearch where
  apiVersion : Option String
  kind : Option String
  stopped : Bool
  others : List (String × Json)

namespace TypeSearch

def pass (s : TypeSearch) (field : String × Json) : TypeSearch :=
  { s with others := field :: s.others }

def step (s : TypeSearch) (field : String × Json) : TypeSearch :=
  if s.stopped then s.pass field
  else
    match field with
    | ("apiVersion", .str text) =>
      if s.apiVersion.isNone then { s with apiVersion := some text } else { s with stopped := true }
    | ("kind", .str text) => if s.kind.isNone then { s with kind := some text } else { s with stopped := true }
    | (name, v) =>
      if name = "apiVersion" ∨ name = "kind" then { s with stopped := true } else s.pass (name, v)

def type? (s : TypeSearch) : Option TypeName :=
  match s.apiVersion, s.kind with
  | some a, some k => if s.stopped then none else some ⟨a, k⟩
  | _, _ => none

end TypeSearch

def ofFields? (fields : List (String × Json)) : Option ClusterObject := do
  let metadata ←
    match fields.filter fun f => f.1 == "metadata" with
    | [] => some []
    | [(_, v)] => Metadata.read? v.sorted
    | _ => none
  let search := (fields.filter fun f => f.1 != "metadata").foldl TypeSearch.step ⟨none, none, false, []⟩
  some ⟨search.type?, metadata, Json.sortedFields search.others.reverse⟩

def ofJson? (v : Json) : Option ClusterObject :=
  v.fields?.bind ofFields?

/-- The fields of an object; where one name comes twice, what is not known of goes last and counts. -/
def toJson (o : ClusterObject) : Json :=
  let type := match o.type? with
    | some t => [("apiVersion", Json.str t.apiVersion), ("kind", Json.str t.kind)]
    | none => []
  .ofFields (type ++ [("metadata", .obj o.metadata)] ++ o.others)

def withType (o : ClusterObject) (t : TypeName) : ClusterObject :=
  { o with type? := some (o.type?.getD t) }

end ClusterObject

end ClusterGateway
