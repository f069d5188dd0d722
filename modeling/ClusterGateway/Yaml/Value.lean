import ClusterGateway.Yaml.Json

/-!
# Values of YAML

A value keeps what a document says: keys of any kind, and the tags of applications. Two keys of
one mapping must differ.
-/

namespace ClusterGateway.Yaml

inductive Value where
  | atom (a : Atom)
  | sequence (items : List Value)
  | mapping (entries : List (Value × Value))
  | tagged (tag : String) (v : Value)
  deriving BEq, Repr

namespace Value

def null : Value := .atom .null

def ofAtom? : Atom → Option Value
  | .wide => none
  | a => some (.atom a)

def withTag? (tag : Option String) (v : Value) : Option Value :=
  match Atom.localTag? tag with
  | none => some v
  | some name => if name.isEmpty then none else some (.tagged name v)

def ofScalar? (tag : Option String) (s : String) (plain : Bool) : Option Value :=
  if (Atom.localTag? tag).isSome then (ofAtom? (Atom.untagged s plain)).bind (withTag? tag)
  else (Atom.ofScalar? tag s plain).bind ofAtom?

def ofEntries? (entries : List (Value × Value)) : Option Value :=
  if differ [] entries then some (.mapping entries) else none
where
  differ (seen : List Value) : List (Value × Value) → Bool
    | [] => true
    | (k, _) :: rest => !(seen.any (k == ·)) && differ (k :: seen) rest

def ofNode? (d : Document) : Nat → Nat → Node → Option (Value × Nat)
  | 0, jumps, n =>
    match d.follow? jumps n with
    | some (.scalar tag s plain, jumps) => (ofScalar? tag s plain).map fun v => (v, jumps)
    | _ => none
  | depth + 1, jumps, n =>
    match d.follow? jumps n with
    | some (.scalar tag s plain, jumps) => (ofScalar? tag s plain).map fun v => (v, jumps)
    | some (.sequence tag items, jumps) => do
      let (vs, jumps) ← Document.mapCounted? (ofNode? d depth) [] jumps items
      let v ← withTag? tag (.sequence vs)
      some (v, jumps)
    | some (.mapping tag entries, jumps) => do
      let (es, jumps) ← Document.mapCounted? (fun jumps (k, v) => do
        let (k, jumps) ← ofNode? d depth jumps k
        let (v, jumps) ← ofNode? d depth jumps v
        some ((k, v), jumps)) [] jumps entries
      let v ← (ofEntries? es).bind (withTag? tag)
      some (v, jumps)
    | _ => none

def untag : Value → Value
  | .tagged _ v => v.untag
  | v => v

def isNull : Value → Bool
  | .atom .null => true
  | _ => false

def string? (v : Value) : Option String :=
  match v.untag with
  | .atom (.text s) => some s
  | _ => none

def bool? (v : Value) : Option Bool :=
  match v.untag with
  | .atom (.bool b) => some b
  | _ => none

def items? (v : Value) : Option (List Value) :=
  match v.untag with
  | .sequence items => some items
  | .atom .null => some []
  | _ => none

def fields? (v : Value) : Option (List (String × Value)) :=
  match v.untag with
  | .mapping entries => entries.mapM fun (k, v) => k.string?.map fun name => (name, v)
  | .atom .null => some []
  | _ => none

mutual

def isJson : Value → Bool
  | .atom _ => true
  | .sequence items => areJson items
  | .mapping entries => areJsonEntries entries
  | .tagged _ _ => false

def areJson : List Value → Bool
  | [] => true
  | v :: vs => v.isJson && areJson vs

def areJsonEntries : List (Value × Value) → Bool
  | [] => true
  | (k, v) :: es => k.string?.isSome && v.isJson && areJsonEntries es

end

end Value

def Document.value? (d : Document) : Option Value :=
  match d.root with
  | none => some .null
  | some n => (Value.ofNode? d maxDepth 0 n).map Prod.fst

def readAll? (text : String) : Option (List Value) :=
  (Document.readAll? text).bind fun ds => ds.mapM Document.value?

end ClusterGateway.Yaml
