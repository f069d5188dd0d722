import ClusterGateway.Operation.Manifest
import ClusterGateway.Text.Quoted

/-!
# Hidden namespaces

Objects of a hidden namespace are left out of every list. A namespace itself is hidden by its
name; a kind that has no namespaces is never hidden.
-/

namespace ClusterGateway

structure Hidden where
  namespaces : List String
  deriving Repr

namespace Hidden

/-- Blank entries hide nothing. -/
def ofList (namespaces : List String) : Hidden :=
  ⟨(namespaces.filter fun ns => !Text.isBlankText ns).eraseDups⟩

def contains (h : Hidden) (ns : String) : Bool := h.namespaces.contains ns

def field? (r : ResourceKind) : Option String :=
  if r.isNamespaceKind then some "name" else if r.isNamespaced then some "namespace" else none

def shows (h : Hidden) (r : ResourceKind) (object : Json) : Bool :=
  match field? r with
  | none => true
  | some field =>
    match Manifest.metadata? object field with
    | none => true
    | some ns => !h.contains ns

def describe (h : Hidden) : String :=
  "Dispatcher \x7b ignored: IgnoreSet \x7b namespaces: \x7b" ++
    ", ".intercalate (h.namespaces.map Text.quoted) ++ "\x7d \x7d, .. \x7d"

end Hidden

end ClusterGateway
