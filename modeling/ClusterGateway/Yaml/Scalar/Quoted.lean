import ClusterGateway.Yaml.Scalar.Gap

/-!
# Quoted scalars

Between single quotes only a doubled quote is special. Between double quotes a backslash starts
an escape, and before a line break it joins the lines. Both fold their lines.
-/

namespace ClusterGateway.Yaml.Quoted

inductive Phase where
  | text
  /-- After a single quote, which another may double. -/
  | quote
  | slash
  | code (due value : Nat)

structure Reader where
  text : List Char
  gap : Gap
  phase : Phase
  line : Nat
  column : Nat

def simpleEscape? (c : Char) : Option Char :=
  if c = '0' then some '\x00'
  else if c = 'a' then some '\x07'
  else if c = 'b' then some '\x08'
  else if c = 't' ∨ c = '\t' then some '\t'
  else if c = 'n' then some '\n'
  else if c = 'v' then some '\x0b'
  else if c = 'f' then some '\x0c'
  else if c = 'r' then some '\r'
  else if c = 'e' then some '\x1b'
  else if c = ' ' ∨ c = '"' ∨ c = '/' ∨ c = '\\' then some c
  else if c = 'N' then some (Char.ofNat 0x85)
  else if c = '_' then some (Char.ofNat 0xA0)
  else if c = 'L' then some (Char.ofNat 0x2028)
  else if c = 'P' then some (Char.ofNat 0x2029)
  else none

def codeLength? (c : Char) : Option Nat :=
  if c = 'x' then some 2 else if c = 'u' then some 4 else if c = 'U' then some 8 else none

def Reader.next (r : Reader) (text : List Char) (gap : Gap) (phase : Phase) : Reader :=
  ⟨text, gap, phase, r.line, r.column + 1⟩

def Reader.finish (r : Reader) (rest : List Char) (column : Nat) : String × Cursor :=
  (String.ofList (r.gap.close r.text).reverse, ⟨rest, r.line, column⟩)

def Reader.digit? (r : Reader) (due value : Nat) (c : Char) : Option Reader := do
  let value := value * 16 + (← hexValue? c)
  if 1 < due then some (r.next r.text .none (.code (due - 1) value))
  else if value.isValidChar then some (r.next (Char.ofNat value :: r.text) .none .text)
  else none

def Reader.escape? (r : Reader) (c : Char) : Option Reader :=
  if isBreak c then some ⟨r.text, .escapedBreak, .text, r.line + 1, 0⟩
  else match codeLength? c with
  | some n => some (r.next r.text .none (.code n 0))
  | none => (simpleEscape? c).map fun d => r.next (d :: r.text) .none .text

def read? (single : Bool) : Reader → List Char → Option (String × Cursor)
  | r, [] =>
    match r.phase with
    | .quote => some (r.finish [] r.column)
    | _ => none
  | r, c :: cs =>
    match r.phase with
    | .quote =>
      if c = '\x27' then read? single (r.next (c :: r.text) .none .text) cs
      else some (r.finish (c :: cs) r.column)
    | .slash =>
      match r.escape? c with
      | some r => read? single r cs
      | none => none
    | .code due value =>
      match r.digit? due value c with
      | some r => read? single r cs
      | none => none
    | .text =>
      if isBreak c then read? single ⟨r.text, r.gap.push c, .text, r.line + 1, 0⟩ cs
      else if isBlank c then read? single (r.next r.text (r.gap.push c) .text) cs
      else if r.column = 0 ∧ isDocumentMark (c :: cs) then none
      else
        let text := r.gap.close r.text
        if single then
          if c = '\x27' then read? single (r.next text .none .quote) cs
          else read? single (r.next (c :: text) .none .text) cs
        else if c = '"' then some (r.finish cs (r.column + 1))
        else if c = '\\' then read? single (r.next text .none .slash) cs
        else read? single (r.next (c :: text) .none .text) cs

def scan? (single : Bool) (c : Cursor) : Option (String × Cursor) :=
  read? single ⟨[], .none, .text, c.line, c.column⟩ c.rest

end ClusterGateway.Yaml.Quoted
