import ClusterGateway.Resource.Basic
import ClusterGateway.Text.Blank

/-!
# The catalog of kinds

A catalog is a table of kinds in which no normal form of a name belongs to two rows. A kind is
found by any of its names in any spelling: blanks around it, the case of ASCII letters, and `-`
in place of `_` make no difference.
-/

namespace ClusterGateway

def normalName (s : String) : String :=
  (Text.asciiLower (Text.trim s)).map fun c => if c = '-' then '_' else c

namespace ResourceKind

def normalNames (r : ResourceKind) : List String := r.names.map normalName

def isNamed (r : ResourceKind) (kind : String) : Bool := r.normalNames.contains (normalName kind)

end ResourceKind

structure NameClash where
  name : String
  earlier : String
  later : String
  deriving DecidableEq, Repr

def NameClash.message (c : NameClash) : String :=
  s!"name '{c.name}' maps to both {c.earlier} and {c.later}"

/-- The first name, row by row and name by name, that an earlier row has too. -/
def firstClash? (kinds : List ResourceKind) : Option NameClash :=
  go [] kinds
where
  go (before : List ResourceKind) : List ResourceKind → Option NameClash
    | [] => none
    | r :: rest =>
      match r.normalNames.findSome? fun n => (before.find? (·.normalNames.contains n)).map (n, ·) with
      | some (n, earlier) => some ⟨n, earlier.name, r.name⟩
      | none => go (before ++ [r]) rest

structure Catalog where
  kinds : List ResourceKind
  unambiguous : firstClash? kinds = none

namespace Catalog

def ofTable (kinds : List ResourceKind) : Except NameClash Catalog :=
  match h : firstClash? kinds with
  | none => .ok ⟨kinds, h⟩
  | some clash => .error clash

def find? (c : Catalog) (kind : String) : Option ResourceKind :=
  c.kinds.find? (·.isNamed kind)

/-- The kinds that the level may both list and get, in the order of the table. -/
def supported (c : Catalog) (level : Level) : List String :=
  (c.kinds.filter fun r => r.policy.allows .list level && r.policy.allows .get level).map (·.name)

def templates (c : Catalog) : List Template := c.kinds.map (·.starter)

end Catalog

end ClusterGateway
