import ClusterGateway.Yaml.Event

/-!
# Documents as trees

Anchors are numbered by how many names were anchored before. An alias stands for the last node of
its number that the document holds, also when that node comes later.
-/

namespace ClusterGateway.Yaml

inductive Node where
  | scalar (tag : Option String) (text : String) (plain : Bool)
  | sequence (tag : Option String) (items : List Node)
  | mapping (tag : Option String) (entries : List (Node × Node))
  | alias (anchor : Nat)

structure Anchored where
  anchor : Nat
  place : Nat
  node : Node

structure Document where
  /-- A stream without documents has one with nothing in it. -/
  root : Option Node
  anchored : List Anchored
  size : Nat

namespace Document

def empty : Document := ⟨none, [], 0⟩

def target? (d : Document) (anchor : Nat) : Option Node :=
  (d.anchored.foldl later none).map Anchored.node
where
  later (best : Option Anchored) (a : Anchored) : Option Anchored :=
    if a.anchor = anchor ∧ best.all (fun b => decide (b.place < a.place)) then some a else best

inductive Frame where
  | items (mine : Option Anchored) (tag : Option String) (before : List Node)
  | entries (mine : Option Anchored) (tag : Option String) (before : List (Node × Node)) (key : Option Node)

structure Builder where
  documents : List Document
  frames : List Frame
  root : Option Node
  anchored : List Anchored
  names : List (String × Nat)
  nameCount : Nat
  size : Nat

namespace Builder

def start : Builder := ⟨[], [], none, [], [], 0, 0⟩

def place (b : Builder) (n : Node) : Builder :=
  match b.frames with
  | [] => { b with root := some n }
  | .items a t before :: frames => { b with frames := .items a t (n :: before) :: frames }
  | .entries a t before none :: frames => { b with frames := .entries a t before (some n) :: frames }
  | .entries a t before (some k) :: frames =>
    { b with frames := .entries a t ((k, n) :: before) none :: frames }

def name (b : Builder) : Option String → Builder × Option Anchored
  | none => (b, none)
  | some a =>
    let known := (b.names.lookup a).isSome
    ({ b with names := (a, b.nameCount) :: b.names, nameCount := if known then b.nameCount else b.nameCount + 1 },
      some ⟨b.nameCount, b.size, .alias b.nameCount⟩)

def record (b : Builder) (mine : Option Anchored) (n : Node) : Builder :=
  match mine with
  | none => b
  | some a => { b with anchored := { a with node := n } :: b.anchored }

def count (b : Builder) : Builder := { b with size := b.size + 1 }

def finish (b : Builder) : Builder :=
  match b.frames with
  | .items mine tag before :: frames =>
    let n := .sequence tag before.reverse
    ({ b with frames := frames }.record mine n).place n
  | .entries mine tag before _ :: frames =>
    let n := .mapping tag before.reverse
    ({ b with frames := frames }.record mine n).place n
  | [] => b

def step? (b : Builder) : Event → Option Builder
  | .documentStart => some { start with documents := b.documents }
  | .documentEnd => some { start with documents := ⟨b.root, b.anchored, b.size⟩ :: b.documents }
  | .alias a => (b.names.lookup a).map fun i => b.count.place (.alias i)
  | .scalar p text plain =>
    let (b, mine) := b.name p.anchor
    let n := .scalar p.tag text plain
    some ((b.count.record mine n).place n)
  | .sequenceStart p =>
    let (b, mine) := b.name p.anchor
    some { b.count with frames := .items mine p.tag [] :: b.frames }
  | .mappingStart p =>
    let (b, mine) := b.name p.anchor
    some { b.count with frames := .entries mine p.tag [] none :: b.frames }
  | .collectionEnd => some b.count.finish

def run? : Builder → List Event → Option Builder
  | b, [] => some b
  | b, e :: es =>
    match b.step? e with
    | none => none
    | some b => run? b es

end Builder

def readAll? (text : String) : Option (List Document) := do
  let events ← Event.ofTokens? (← Token.scan? text)
  let b ← Builder.start.run? events
  if b.documents.isEmpty then some [.empty] else some b.documents.reverse

end Document

end ClusterGateway.Yaml
