import ClusterGateway.Yaml.Token.Basic
import ClusterGateway.Yaml.Scalar.Block
import ClusterGateway.Yaml.Scalar.Plain
import ClusterGateway.Yaml.Scalar.Quoted

/-!
# From text to tokens

Whether a node is a simple key shows only at the colon behind it. The place of such a node is
kept, and when the colon comes on the same line and near enough, the mark of the key, and of the
block mapping that it opens, go before the tokens of the node.
-/

namespace ClusterGateway.Yaml

/-- A node that a colon may still turn into a key. -/
structure SimpleKey where
  place : Nat
  line : Nat
  column : Nat
  /-- It stands where only a key can. -/
  required : Bool

def SimpleKey.maxLength : Nat := 1024

def SimpleKey.isLive (k : SimpleKey) (c : Cursor) : Bool :=
  k.line == c.line && decide (c.column ≤ k.column + maxLength)

structure Scanner where
  here : Cursor
  tokens : List Token
  count : Nat
  /-- The columns of the open block collections, innermost first. -/
  indents : List Nat
  key : Option SimpleKey
  outer : List (Option SimpleKey)
  /-- A simple key may stand here. -/
  fresh : Bool

namespace Scanner

def start (text : List Char) : Scanner :=
  ⟨.start text, [], 0, [], none, [], true⟩

def inFlow (s : Scanner) : Bool := !s.outer.isEmpty

def floor (s : Scanner) : Nat :=
  match s.indents with
  | [] => 0
  | n :: _ => n + 1

def push (s : Scanner) (t : Token) : Scanner :=
  { s with tokens := t :: s.tokens, count := s.count + 1 }

def mark (s : Scanner) (t : Token) (n : Nat) : Scanner :=
  { s.push t with here := s.here.drop n }

def insertLoop (ts : List Token) : Nat → List Token → List Token → List Token
  | 0, passed, tokens => passed.reverseAux (ts.reverseAux tokens)
  | n + 1, passed, t :: tokens => insertLoop ts n (t :: passed) tokens
  | _ + 1, passed, [] => passed.reverseAux (ts.reverseAux [])

def insertAt (s : Scanner) (place : Nat) (ts : List Token) : Scanner :=
  { s with tokens := insertLoop ts (s.count - place) [] s.tokens, count := s.count + ts.length }

/-- Closes the block collections that stand right of a column. -/
def unroll (s : Scanner) (floor : Nat) : Scanner :=
  if s.inFlow then s
  else
    let closed := s.indents.takeWhile fun n => decide (floor ≤ n)
    { s with
      tokens := closed.foldl (fun ts _ => .blockEnd :: ts) s.tokens
      count := s.count + closed.length
      indents := s.indents.drop closed.length }

/-- Opens a block collection at a column unless one is open there. -/
def roll (s : Scanner) (column : Nat) (t : Token) : Scanner :=
  if !s.inFlow && decide (s.floor ≤ column) then { s.push t with indents := column :: s.indents } else s

/-- A node that had to be a key and is none is an error. -/
def dropKey? (s : Scanner) : Option Scanner :=
  match s.key with
  | some k => if k.required then none else some { s with key := none }
  | none => some s

def saveKey? (s : Scanner) : Option Scanner :=
  if s.fresh then
    s.dropKey?.map fun s =>
      let required := !s.inFlow && s.indents.head? == some s.here.column
      { s with key := some ⟨s.count, s.here.line, s.here.column, required⟩ }
  else some s

def documentMark? (s : Scanner) (t : Token) : Option Scanner :=
  (s.unroll 0).dropKey?.map fun s => { s.mark t 3 with fresh := false }

def directive? (s : Scanner) : Option Scanner := do
  let s ← (s.unroll 0).dropKey?
  let (d, here) ← Directive.scan? s.here
  some { s.push (.directive d) with here := here, fresh := false }

def openFlow? (s : Scanner) (t : Token) : Option Scanner :=
  s.saveKey?.map fun s => { s.mark t 1 with outer := s.key :: s.outer, key := none, fresh := true }

def closeFlow? (s : Scanner) (t : Token) : Option Scanner :=
  s.dropKey?.map fun s =>
    match s.outer with
    | [] => { s.mark t 1 with fresh := false }
    | k :: outer => { s.mark t 1 with key := k, outer := outer, fresh := false }

def flowEntry? (s : Scanner) : Option Scanner :=
  s.dropKey?.map fun s => { s.mark .flowEntry 1 with fresh := true }

def blockEntry? (s : Scanner) : Option Scanner :=
  if !s.inFlow && !s.fresh then none
  else (s.roll s.here.column .blockSequenceStart).dropKey?.map fun s =>
    { s.mark .blockEntry 1 with fresh := true }

def explicitKey? (s : Scanner) : Option Scanner :=
  if !s.inFlow && !s.fresh then none
  else (s.roll s.here.column .blockMappingStart).dropKey?.map fun s =>
    { s.mark .key 1 with fresh := !s.inFlow }

def explicitValue? (s : Scanner) : Option Scanner :=
  if !s.inFlow && !s.fresh then none
  else
    let s := s.roll s.here.column .blockMappingStart
    some { s.mark .value 1 with key := none, fresh := !s.inFlow }

def value? (s : Scanner) : Option Scanner :=
  match s.key with
  | none => s.explicitValue?
  | some k =>
    if k.isLive s.here then
      let opens := !s.inFlow && decide (s.floor ≤ k.column)
      let s := { s.insertAt k.place (if opens then [.blockMappingStart, .key] else [.key]) with
        indents := if opens then k.column :: s.indents else s.indents }
      some { s.mark .value 1 with key := none, fresh := false }
    else if k.required then none
    else s.explicitValue?

def endsName (cs : List Char) : Bool :=
  endsWord cs || match cs with
    | c :: _ => "?:,]\x7d%@\x60".toList.contains c
    | [] => true

def named? (s : Scanner) (token : String → Token) : Option Scanner := do
  let s ← s.saveKey?
  let (name, here) := (s.here.drop 1).span isWordChar
  if name.isEmpty ∨ !endsName here.rest then none
  some { s.push (token (String.ofList name)) with here := here, fresh := false }

def tag? (s : Scanner) : Option Scanner := do
  let s ← s.saveKey?
  let (t, here) ← Tag.scan? s.inFlow s.here
  some { s.push (.tag t) with here := here, fresh := false }

def blockScalar? (s : Scanner) (literal : Bool) : Option Scanner := do
  let s ← s.dropKey?
  let (text, here) ← Block.scan? literal s.floor (s.here.drop 1)
  some { s.push (.scalar text false) with here := here, fresh := true }

def quotedScalar? (s : Scanner) (single : Bool) : Option Scanner := do
  let s ← s.saveKey?
  let (text, here) ← Quoted.scan? single (s.here.drop 1)
  some { s.push (.scalar text false) with here := here, fresh := false }

def plainScalar? (s : Scanner) : Option Scanner := do
  let s ← s.saveKey?
  let p ← Plain.scan? s.inFlow s.floor s.here
  some { s.push (.scalar p.text true) with here := p.after, fresh := p.broken }

def isIndicator (c : Char) : Bool :=
  "-?:,[]\x7b\x7d#&*!|>\x27\"%@\x60".toList.contains c

def startsPlain (inFlow : Bool) (c : Char) (rest : List Char) : Bool :=
  if isSpaceOrBreak c then false
  else if !isIndicator c then true
  else if c = '-' then !(rest.head?.any isBlank)
  else !inFlow && (c == '?' || c == ':') && !endsWord rest

def token? (s : Scanner) (c : Char) (rest : List Char) : Option Scanner :=
  let inFlow := s.inFlow
  if s.here.column = 0 ∧ c = '%' then s.directive?
  else if s.here.column = 0 ∧ isMark '-' s.here.rest then s.documentMark? .documentStart
  else if s.here.column = 0 ∧ isMark '.' s.here.rest then s.documentMark? .documentEnd
  else if c = '[' then s.openFlow? .flowSequenceStart
  else if c = '\x7b' then s.openFlow? .flowMappingStart
  else if c = ']' then s.closeFlow? .flowSequenceEnd
  else if c = '\x7d' then s.closeFlow? .flowMappingEnd
  else if c = ',' then s.flowEntry?
  else if c = '-' ∧ endsWord rest then s.blockEntry?
  else if c = '?' ∧ (inFlow ∨ endsWord rest) then s.explicitKey?
  else if c = ':' ∧ (inFlow ∨ endsWord rest) then s.value?
  else if c = '*' then s.named? .alias
  else if c = '&' then s.named? .anchor
  else if c = '!' then s.tag?
  else if c = '|' ∧ !inFlow then s.blockScalar? true
  else if c = '>' ∧ !inFlow then s.blockScalar? false
  else if c = '\x27' then s.quotedScalar? true
  else if c = '"' then s.quotedScalar? false
  else if startsPlain inFlow c rest then s.plainScalar?
  else none

inductive Step where
  | more (s : Scanner)
  | done (s : Scanner)

def step? (s : Scanner) : Option Step :=
  let (fresh, here) := s.here.toToken s.inFlow s.fresh
  let s := { s with here := here, fresh := fresh }
  match here.rest with
  | [] => (s.unroll 0).dropKey?.map .done
  | c :: rest => ((s.unroll (here.column + 1)).token? c rest).map .more

/-- Each step but the last passes over at least one character. -/
def run? : Nat → Scanner → Option (List Token)
  | 0, _ => none
  | fuel + 1, s =>
    match s.step? with
    | none => none
    | some (.more s) => run? fuel s
    | some (.done s) => some s.tokens.reverse

end Scanner

def Token.scan? (text : String) : Option (List Token) := do
  let cs ← lines? [] text.toList
  (Scanner.start cs).run? (cs.length + 1)

end ClusterGateway.Yaml
