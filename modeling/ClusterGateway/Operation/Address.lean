import ClusterGateway.Failure
import ClusterGateway.Resource.Basic
import ClusterGateway.Text.Blank

/-!
# Addresses of objects

An object is addressed by a name and, if its kind lives in namespaces, a namespace. Names
become path segments and words of a command line, so a name may not hold what would end either;
a namespace is a DNS label. Each way to get an address or an object wrong is a `Refusal`.
-/

namespace ClusterGateway

inductive Refusal where
  | namespaceRequired (kind : String)
  | nameRequired (kind : String)
  | invalidName (name : String)
  | invalidNamespace (ns : String)
  | payloadRequired (verb : Verb)
  | payloadNotObject
  | metadataNotObject
  | typeMismatch (field actual kind expected : String)
  | unnamed
  | nameMissing
  | versionMissing
  | nameMismatch (requested name : String)
  deriving DecidableEq, Repr

namespace Refusal

def message : Refusal → String
  | namespaceRequired kind => s!"namespace is required for {kind}"
  | nameRequired kind => s!"name is required for {kind}"
  | invalidName name => s!"invalid object name '{name}'"
  | invalidNamespace ns => s!"invalid namespace '{ns}'"
  | payloadRequired verb => s!"{verb} requires a payload"
  | payloadNotObject => "payload must be an object"
  | metadataNotObject => "metadata must be an object"
  | typeMismatch field actual kind expected =>
    s!"payload {field} '{actual}' does not match {kind} ({expected})"
  | unnamed => "metadata.name or metadata.generateName is required"
  | nameMissing => "metadata.name is required"
  | versionMissing => "metadata.resourceVersion is required for update"
  | nameMismatch requested name => s!"request name '{requested}' does not match metadata.name '{name}'"

def failure (r : Refusal) : Failure := .validation r.message

end Refusal

abbrev Checked (α : Type) := Except Refusal α

namespace Address

def isNameChar (c : Char) : Bool :=
  c != '/' && c != '%' && !Text.isBlank c && !Text.isControl c

def isName (s : String) : Bool :=
  s.utf8ByteSize ≤ 253 && s != "." && s != ".." && s.toList.head? != some '-' && s.toList.all isNameChar

def isLabelEdge (c : Char) : Bool := c.isLower || c.isDigit

def isLabelChar (c : Char) : Bool := isLabelEdge c || c == '-'

def isNamespace (s : String) : Bool :=
  s.utf8ByteSize ≤ 63 && s.toList.head?.any isLabelEdge && s.toList.getLast?.any isLabelEdge &&
    s.toList.all isLabelChar

def checkName (s : String) : Checked String :=
  if isName s then .ok s else .error (.invalidName s)

def checkNamespace (s : String) : Checked String :=
  if isNamespace s then .ok s else .error (.invalidNamespace s)

/-- The namespace of one object: trimmed, and none for a kind that has none. -/
def targetNamespace (r : ResourceKind) (ns : Option String) : Checked (Option String) :=
  if r.isNamespaced then
    match Text.nonBlank? ns with
    | none => .error (.namespaceRequired r.name)
    | some ns => (checkNamespace ns).map some
  else .ok none

def targetName (r : ResourceKind) (name : Option String) : Checked String :=
  match Text.nonBlank? name with
  | none => .error (.nameRequired r.name)
  | some name => checkName name

/-- The namespace to list: for a kind that has them, none means all. -/
def listNamespace (r : ResourceKind) (ns : Option String) : Checked (Option String) :=
  if r.isNamespaced then
    match Text.nonBlank? ns with
    | none => .ok none
    | some ns => (checkNamespace ns).map some
  else .ok none

end Address

end ClusterGateway
