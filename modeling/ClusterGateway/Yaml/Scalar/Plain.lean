import ClusterGateway.Yaml.Scalar.Gap

/-!
# Plain scalars

A plain scalar ends at a comment, at a colon before a blank, at a document mark, before a line
that is not indented enough, and inside brackets at a comma or a bracket.
-/

namespace ClusterGateway.Yaml.Plain

structure Reader where
  text : List Char
  gap : Gap
  line : Nat
  column : Nat

def isFlowMark (c : Char) : Bool :=
  c == ',' || c == '[' || c == ']' || c == '\x7b' || c == '\x7d'

def ends (inFlow : Bool) (c : Char) (rest : List Char) : Bool :=
  (c == ':' && endsWord rest) || (inFlow && isFlowMark c)

/-- A colon right before a mark is refused inside brackets. -/
def isBadColon (inFlow : Bool) (c : Char) (rest : List Char) : Bool :=
  inFlow && c == ':' && match rest with
    | d :: _ => isFlowMark d || d == '?'
    | [] => false

/-- A word starts here: the text may end instead. -/
def endsBeforeWord (inFlow : Bool) (floor : Nat) (r : Reader) (cs : List Char) : Bool :=
  (r.gap.broken && !inFlow && decide (r.column < floor)) || (r.column == 0 && isDocumentMark cs) ||
    cs.head? == some '#'

structure Scalar where
  text : String
  broken : Bool
  after : Cursor

def Reader.finish (r : Reader) (rest : List Char) : Scalar :=
  ⟨String.ofList r.text.reverse, r.gap.broken, rest, r.line, r.column⟩

/-- Reads on, where `floor` is the least column of a further line. -/
def read? (inFlow : Bool) (floor : Nat) : Reader → List Char → Option Scalar
  | r, [] => some (r.finish [])
  | r, c :: cs =>
    if isBreak c then read? inFlow floor ⟨r.text, r.gap.push c, r.line + 1, 0⟩ cs
    else if isBlank c then
      if r.gap.broken && c == '\t' && decide (r.column < floor) then none
      else read? inFlow floor ⟨r.text, r.gap.push c, r.line, r.column + 1⟩ cs
    else if r.gap.isOpen && endsBeforeWord inFlow floor r (c :: cs) then some (r.finish (c :: cs))
    else if isBadColon inFlow c cs then none
    else if ends inFlow c cs then some (r.finish (c :: cs))
    else read? inFlow floor ⟨c :: r.gap.close r.text, .none, r.line, r.column + 1⟩ cs

def scan? (inFlow : Bool) (floor : Nat) (c : Cursor) : Option Scalar :=
  read? inFlow floor ⟨[], .none, c.line, c.column⟩ c.rest

end ClusterGateway.Yaml.Plain
