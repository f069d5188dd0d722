import ClusterGateway.Yaml.Cursor

/-!
# Folding

What stands between two words of a scalar. Blanks on one line are kept; a single line break
becomes a blank, and of several the first is dropped. A separator character that is not a line
feed is kept even when it comes first. All texts are held with their newest character first.
-/

namespace ClusterGateway.Yaml

structure Gap where
  blanks : List Char
  broken : Bool
  first : Option Char
  more : List Char

namespace Gap

def none : Gap := ⟨[], false, .none, []⟩

def isOpen (g : Gap) : Bool := g.broken || !g.blanks.isEmpty

/-- After a line break that leaves nothing in the text. -/
def escapedBreak : Gap := ⟨[], true, .none, []⟩

def push (g : Gap) (c : Char) : Gap :=
  if isBreak c then
    if g.broken then { g with more := c :: g.more } else ⟨[], true, some c, []⟩
  else if g.broken then g
  else { g with blanks := c :: g.blanks }

def close (g : Gap) (text : List Char) : List Char :=
  if !g.broken then g.blanks ++ text
  else if g.first = some '\n' then if g.more.isEmpty then ' ' :: text else g.more ++ text
  else g.more ++ (g.first.toList ++ text)

end Gap

end ClusterGateway.Yaml
