import ClusterGateway.Yaml.Scalar.Gap

/-!
# Block scalars

The lines below a header, indented by a fixed number of columns: the number of the header, or
what the first line that is not empty shows. A literal scalar keeps its line breaks and a folded
one folds those between two lines that do not start with a blank. The last line breaks are kept,
dropped, or cut down to one.
-/

namespace ClusterGateway.Yaml.Block

inductive Chomping where
  | clip
  | strip
  | keep
  deriving DecidableEq, Repr

structure Header where
  literal : Bool
  chomping : Chomping
  increment : Option Nat

def chomping? (c : Char) : Option Chomping :=
  if c = '+' then some .keep else if c = '-' then some .strip else none

def increment? (c : Char) : Option Nat :=
  if c.isDigit then some (c.toNat - 48) else none

/-- The chomping and the increment, in either order, and how many characters they take. -/
def header (literal : Bool) (cs : List Char) : Header × Nat :=
  let a := cs.head?
  let b := (cs.drop 1).head?
  match a.bind chomping? with
  | some k =>
    match b.bind increment? with
    | some n => (⟨literal, k, some n⟩, 2)
    | none => (⟨literal, k, none⟩, 1)
  | none =>
    match a.bind increment? with
    | none => (⟨literal, .clip, none⟩, 0)
    | some n =>
      match b.bind chomping? with
      | some k => (⟨literal, k, some n⟩, 2)
      | none => (⟨literal, .clip, some n⟩, 1)

structure Reader where
  text : List Char
  lineEnd : Option Char
  breaks : List Char
  blankStart : Bool
  indent : Option Nat
  /-- The most columns that an empty line has filled. -/
  widest : Nat
  inLine : Bool
  line : Nat
  column : Nat

def Reader.openLine (r : Reader) (literal : Bool) (indent : Nat) (c : Char) : Reader :=
  let text :=
    if !literal && r.lineEnd == some '\n' && !r.blankStart && !isBlank c then
      if r.breaks.isEmpty then ' ' :: r.text else r.breaks ++ r.text
    else r.breaks ++ (r.lineEnd.toList ++ r.text)
  ⟨c :: text, none, [], isBlank c, some indent, r.widest, true, r.line, r.column + 1⟩

def Reader.finish (r : Reader) (chomping : Chomping) (rest : List Char) : String × Cursor :=
  let text := match chomping with
    | .strip => r.text
    | .clip => r.lineEnd.toList ++ r.text
    | .keep => r.breaks ++ (r.lineEnd.toList ++ r.text)
  (String.ofList text.reverse, ⟨rest, r.line, r.column⟩)

def read? (h : Header) (floor : Nat) : Reader → List Char → Option (String × Cursor)
  | r, [] => some (r.finish h.chomping [])
  | r, c :: cs =>
    if r.inLine then
      if isBreak c then
        read? h floor { r with lineEnd := some c, inLine := false, line := r.line + 1, column := 0 } cs
      else read? h floor { r with text := c :: r.text, column := r.column + 1 } cs
    else
      let inMargin := match r.indent with
        | none => true
        | some n => decide (r.column < n)
      if inMargin && c == ' ' then
        read? h floor { r with column := r.column + 1, widest := max r.widest (r.column + 1) } cs
      else if inMargin && c == '\t' then none
      else if isBreak c then
        read? h floor { r with breaks := c :: r.breaks, line := r.line + 1, column := 0 } cs
      else
        let indent := r.indent.getD (max r.widest (max floor 1))
        if r.column = indent then read? h floor (r.openLine h.literal indent c) cs
        else some (r.finish h.chomping (c :: cs))

/-- Reads from after the mark of the style; `floor` is the least column of a line's text. -/
def scan? (literal : Bool) (floor : Nat) (c : Cursor) : Option (String × Cursor) := do
  let (h, size) := header literal c.rest
  if h.increment = some 0 then none
  let c ← (c.drop size).skipRestOfLine?
  let indent := h.increment.map fun n => floor - 1 + n
  read? h floor ⟨[], none, [], false, indent, 0, false, c.line, c.column⟩ c.rest

end ClusterGateway.Yaml.Block
