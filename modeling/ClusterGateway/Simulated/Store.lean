import ClusterGateway.Operation.Effect

/-!
# A cluster in memory

Objects are kept under plural, namespace and name, in that order. Each write raises the
revision and stamps the object with it; an object is replaced only at the version it has.
-/

namespace ClusterGateway.Simulated

structure Key where
  plural : String
  ns : String
  name : String
  deriving DecidableEq, Repr

namespace Key

def lt (a b : Key) : Bool :=
  a.plural < b.plural ||
    (a.plural == b.plural && (a.ns < b.ns || (a.ns == b.ns && a.name < b.name)))

end Key

structure Store where
  revision : Nat
  objects : List (Key × Json)

namespace Store

def empty : Store := ⟨0, []⟩

def get? (s : Store) (k : Key) : Option Json :=
  (s.objects.find? fun (l, _) => l = k).map Prod.snd

def insertAt (k : Key) (v : Json) : List (Key × Json) → List (Key × Json)
  | [] => [(k, v)]
  | (l, w) :: rest =>
    if l = k then (k, v) :: rest
    else if k.lt l then (k, v) :: (l, w) :: rest
    else (l, w) :: insertAt k v rest

def erase (s : Store) (k : Key) : Store :=
  { s with objects := s.objects.filter fun (l, _) => l ≠ k }

def setMetadata (field value : String) (object : Json) : Json :=
  match object with
  | .obj fields =>
    let metadata := match Json.Fields.get? "metadata" fields with
      | some (.obj m) => m
      | _ => []
    .obj (Json.Fields.insert "metadata" (.obj (Json.Fields.insert field (.str value) metadata)) fields)
  | other => other

def write (s : Store) (k : Key) (object : Json) : Json × Store :=
  let revision := s.revision + 1
  let object := setMetadata "resourceVersion" (toString revision) object
  (object, ⟨revision, insertAt k object s.objects⟩)

def text (object : Json) (field : String) : Option String :=
  ((object.get? "metadata").bind (·.get? field)).bind Json.string?

def seed (s : Store) (plural : String) (object : Json) : Store :=
  (s.write ⟨plural, (text object "namespace").getD "", (text object "name").getD ""⟩ object).2

def list (s : Store) (plural : String) (ns : Option String) : List Json :=
  (s.objects.filter fun (k, _) => k.plural = plural && ns.all (k.ns = ·)).map Prod.snd

def missing (k : Key) : Failure := .notFound s!"{k.plural} \"{k.name}\" not found"

def nameFor (s : Store) (object : Json) : String :=
  match text object "name" with
  | some name => name
  | none => (text object "generateName").getD "object-" ++ toString s.revision

def perform (s : Store) (c : Call) : Outcome Json × Store :=
  let key (name : String) : Key := ⟨c.resource.plural, c.ns.getD "", name⟩
  match c.action with
  | .list => (.ok (.arr (s.list c.resource.plural c.ns)), s)
  | .get name =>
    match s.get? (key name) with
    | some v => (.ok v, s)
    | none => (.error (missing (key name)), s)
  | .create body =>
    let k := key (s.nameFor body)
    if (s.get? k).isSome then (.error (.alreadyExists s!"{k.plural} \"{k.name}\" already exists"), s)
    else
      let (v, s) := s.write k (setMetadata "name" k.name body)
      (.ok v, s)
  | .replace name body =>
    let k := key name
    match s.get? k with
    | none => (.error (missing k), s)
    | some old =>
      if text old "resourceVersion" = text body "resourceVersion" then
        let (v, s) := s.write k body
        (.ok v, s)
      else
        let why := s!"Operation cannot be fulfilled on {k.plural} \"{k.name}\": the object has been modified"
        (.error (.conflict why), s)
  | .delete name =>
    let k := key name
    if (s.get? k).isSome then (.ok .null, s.erase k) else (.error (missing k), s)

end Store

end ClusterGateway.Simulated
