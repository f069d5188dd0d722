import ClusterGateway.Json.Basic
import ClusterGateway.Yaml.Scalar.Meaning

/-!
# JSON values written in YAML

A text of one document is read as a JSON value. Keys are scalars and keep their text; infinite
numbers become null; a tag of an application has no meaning here. At most 128 collections may be
inside each other, and aliases may be followed a hundred times for every event of the document,
so a text that refers to itself has no value.
-/

namespace ClusterGateway.Yaml

namespace Document

def maxDepth : Nat := 128

def maxJumps (d : Document) : Nat := d.size * 100

def follow? (d : Document) (jumps : Nat) : Node → Option (Node × Nat)
  | .alias a => if jumps < d.maxJumps then (d.target? a).map fun n => (n, jumps + 1) else none
  | n => some (n, jumps)

def mapCounted? (f : Nat → α → Option (β × Nat)) : List β → Nat → List α → Option (List β × Nat)
  | done, jumps, [] => some (done.reverse, jumps)
  | done, jumps, a :: as =>
    match f jumps a with
    | none => none
    | some (b, jumps) => mapCounted? f (b :: done) jumps as

end Document

def Atom.json? : Atom → Option Json
  | null | special _ => some .null
  | bool b => some (.bool b)
  | int n => some (.num (.int n))
  | wide => none
  | real x => some (.num (.real x))
  | text s => some (.str s)

namespace Node

def scalarJson? (tag : Option String) (s : String) (plain : Bool) : Option Json :=
  if (Atom.localTag? tag).isSome then none else (Atom.ofScalar? tag s plain).bind Atom.json?

def keyText? (d : Document) (jumps : Nat) (n : Node) : Option (String × Nat) :=
  match d.follow? jumps n with
  | some (.scalar _ s _, jumps) => some (s, jumps)
  | _ => none

def json? (d : Document) : Nat → Nat → Node → Option (Json × Nat)
  | 0, jumps, n =>
    match d.follow? jumps n with
    | some (.scalar tag s plain, jumps) => (scalarJson? tag s plain).map fun v => (v, jumps)
    | _ => none
  | depth + 1, jumps, n =>
    match d.follow? jumps n with
    | some (.scalar tag s plain, jumps) => (scalarJson? tag s plain).map fun v => (v, jumps)
    | some (.sequence tag items, jumps) =>
      if (Atom.localTag? tag).isSome then none
      else (Document.mapCounted? (json? d depth) [] jumps items).map fun (vs, jumps) => (.arr vs, jumps)
    | some (.mapping tag entries, jumps) =>
      if (Atom.localTag? tag).isSome then none
      else (Document.mapCounted? (fun jumps (k, v) => do
          let (name, jumps) ← keyText? d jumps k
          let (value, jumps) ← json? d depth jumps v
          some ((name, value), jumps)) [] jumps entries).map fun (fs, jumps) => (Json.ofFields fs, jumps)
    | _ => none

end Node

def Document.json? (d : Document) : Option Json :=
  match d.root with
  | none => some .null
  | some n => (n.json? d maxDepth 0).map Prod.fst

def readJson? (text : String) : Option Json :=
  match Document.readAll? text with
  | some [d] => d.json?
  | _ => none

end ClusterGateway.Yaml
