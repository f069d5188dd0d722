import ClusterGateway.Context.Basic
import ClusterGateway.Describe.Process
import ClusterGateway.Failure
import ClusterGateway.Resource.Basic
import ClusterGateway.Text.Utf8

/-!
# The describe tool

Describes one object by running a program. Flags come first, and the resource and the name
follow a separator, so that neither can be read as a flag.
-/

namespace ClusterGateway

structure DescribeTool where
  program : String
  args : List String
  deriving DecidableEq, Repr

namespace DescribeTool

def standard : DescribeTool := ⟨"kubectl", []⟩

def namespaceFlags (r : ResourceKind) (ns : Option String) : List String :=
  if r.isNamespaced then
    match ns with
    | some ns => ["-n", ns]
    | none => []
  else []

def arguments (t : DescribeTool) (c : ClusterContext) (r : ResourceKind) (ns : Option String)
    (name : String) : List String :=
  t.args ++ ["describe"] ++ namespaceFlags r ns ++ c.flags ++ ["--", r.commandName, name]

def combined (o : ProcessOutput) : String :=
  Text.Utf8.decodeLossy o.out ++ Text.Utf8.decodeLossy o.err

def outcome? (t : DescribeTool) (r : ResourceKind) (name : String) : ProcessRun → Option (Outcome String × Nat)
  | .failed e => some (.error (.externalTool s!"Failed to run {t.program}: {e.message}" ""), 0)
  | .ended o =>
    if o.ending.isSuccess then some (.ok (combined o), o.elapsed)
    else
      let text := s!"{t.program} describe {r.name} {name} failed ({o.ending.describe})"
      some (.error (.externalTool text (combined o)), o.elapsed)
  | .never => none

def run? (t : DescribeTool) (c : ClusterContext) (r : ResourceKind) (ns : Option String) (name : String) :
    Option (Outcome String × Nat) :=
  t.outcome? r name (.run t.program (t.arguments c r ns name))

end DescribeTool

end ClusterGateway
