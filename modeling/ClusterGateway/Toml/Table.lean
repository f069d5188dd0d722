import ClusterGateway.Toml.Value

/-!
# Tables as they are written

While a document is read, a table is known to be declared by a header, to be there only because
a header below it was, or to come from a key with dots. Each may be added to in its own way, and
no name is given a value twice.
-/

namespace ClusterGateway.Toml

inductive Origin where
  | declared
  /-- Only headers of tables inside it were seen. -/
  | implied
  | dotted
  deriving DecidableEq, Repr

inductive Item where
  | value (v : Value)
  | table (origin : Origin) (entries : List (String × Item))
  /-- The tables of an array, latest first. -/
  | tables (ts : List (List (String × Item)))

abbrev Entries := List (String × Item)

namespace Item

mutual

def toValue : Item → Value
  | value v => v
  | table _ entries => .table (entryValues entries)
  | tables ts => .array (tableValues ts).reverse

def entryValues : Entries → List (String × Value)
  | [] => []
  | (name, item) :: rest => (name, item.toValue) :: entryValues rest

def tableValues : List Entries → List Value
  | [] => []
  | t :: ts => .table (entryValues t) :: tableValues ts

end

end Item

namespace Entries

def replace (name : String) (item : Item) : Entries → Entries
  | [] => [(name, item)]
  | (n, i) :: rest => if n = name then (name, item) :: rest else (n, i) :: replace name item rest

/-- Changes the entries at the end of a path, where tables that are missing come to be. A path of
dots does not enter a table that has a header; `edit` is told how the last table came to be. -/
def descend? (dots : Bool) (edit : Origin → Entries → Option Entries) :
    List String → Origin → Entries → Option Entries
  | [], origin, entries => edit origin entries
  | name :: path, _, entries =>
    let origin := if dots then Origin.dotted else .implied
    match entries.lookup name with
    | none => (descend? dots edit path origin []).map fun es => replace name (.table origin es) entries
    | some (.table origin es) =>
      if dots ∧ origin = .declared then none
      else (descend? dots edit path origin es).map fun es => replace name (.table origin es) entries
    | some (.tables (t :: ts)) =>
      (descend? dots edit path .declared t).map fun t => replace name (.tables (t :: ts)) entries
    | some (.tables []) | some (.value _) => none

def setNew? (name : String) (v : Value) (entries : Entries) : Option Entries :=
  if (entries.lookup name).isSome then none else some (entries ++ [(name, .value v)])

/-- Sets the value of a key: a table that dots lead to must have come from dots. -/
def setKey? (path : List String) (name : String) (v : Value) (entries : Entries) : Option Entries :=
  descend? true (fun origin es =>
    if path.isEmpty || origin == .dotted then setNew? name v es else none) path .declared entries

end Entries

structure Draft where
  root : Entries
  current : Entries
  /-- The name of the current table after its path; none for the top. -/
  target : Option (List String × String)
  inArray : Bool

namespace Draft

def start : Draft := ⟨[], [], none, false⟩

def close? (d : Draft) : Option Entries :=
  match d.target with
  | none => some d.current
  | some (path, name) =>
    Entries.descend? false (fun _ es =>
      match es.lookup name, d.inArray with
      | none, true => some (es ++ [(name, .tables [d.current])])
      | some (.tables ts), true => some (Entries.replace name (.tables (d.current :: ts)) es)
      | none, false => some (es ++ [(name, .table .declared d.current)])
      | some (.table .declared _), false | some (.table .dotted _), false => none
      | some (.table .implied _), false => some (Entries.replace name (.table .declared d.current) es)
      | _, _ => none) path .declared d.root

def found? (root : Entries) : List String → String → Option Entries
  | [], name =>
    match root.lookup name with
    | none => some []
    | some (.table .implied es) => some es
    | _ => none
  | p :: path, name =>
    match root.lookup p with
    | none => some []
    | some (.table _ es) => found? es path name
    | some (.tables (t :: _)) => found? t path name
    | _ => none

def admitsArray (root : Entries) : List String → String → Bool
  | [], name =>
    match root.lookup name with
    | none | some (.tables _) => true
    | _ => false
  | p :: path, name =>
    match root.lookup p with
    | none => true
    | some (.table _ es) => admitsArray es path name
    | some (.tables (t :: _)) => admitsArray t path name
    | _ => false

def header? (d : Draft) (path : List String) (name : String) (inArray : Bool) : Option Draft := do
  let root ← d.close?
  if inArray then
    if admitsArray root path name then some ⟨root, [], some (path, name), true⟩ else none
  else some ⟨root, ← found? root path name, some (path, name), false⟩

def set? (d : Draft) (path : List String) (name : String) (v : Value) : Option Draft :=
  (Entries.setKey? path name v d.current).map fun es => { d with current := es }

end Draft

end ClusterGateway.Toml
