/-!
# A place in a YAML text

Lines are ended by one character each: `lines?` writes every carriage return, alone or before a
line feed, and the next-line character as a line feed, and refuses a text with a character that
YAML does not allow. A cursor is what is left of such a text, with its line and column.
-/

namespace ClusterGateway.Yaml

def isAllowed (c : Char) : Bool :=
  let n := c.toNat
  n == 9 || n == 10 || n == 13 || (0x20 ≤ n && n ≤ 0x7E) || n == 0x85 || (0xA0 ≤ n && n ≤ 0xD7FF) ||
    (0xE000 ≤ n && n ≤ 0xFFFD) || 0x10000 ≤ n

def lines? : List Char → List Char → Option (List Char)
  | seen, [] => some seen.reverse
  | seen, '\r' :: '\n' :: cs => lines? ('\n' :: seen) cs
  | seen, c :: cs =>
    if !isAllowed c then none
    else if c = '\r' ∨ c.toNat = 0x85 then lines? ('\n' :: seen) cs
    else lines? (c :: seen) cs

def isBreak (c : Char) : Bool :=
  c == '\n' || c.toNat == 0x2028 || c.toNat == 0x2029

def isBlank (c : Char) : Bool :=
  c == ' ' || c == '\t'

def isSpaceOrBreak (c : Char) : Bool :=
  isBlank c || isBreak c

def isWordChar (c : Char) : Bool :=
  c.isAlphanum || c == '_' || c == '-'

def hexValue? (c : Char) : Option Nat :=
  let n := c.toNat
  if c.isDigit then some (n - 48)
  else if 97 ≤ n ∧ n ≤ 102 then some (n - 87)
  else if 65 ≤ n ∧ n ≤ 70 then some (n - 55)
  else none

def endsWord : List Char → Bool
  | [] => true
  | c :: _ => isSpaceOrBreak c

/-- Three characters of the given kind that stand alone mark the edge of a document. -/
def isMark (d : Char) : List Char → Bool
  | a :: b :: c :: rest => a == d && b == d && c == d && endsWord rest
  | _ => false

def isDocumentMark (cs : List Char) : Bool :=
  isMark '-' cs || isMark '.' cs

structure Cursor where
  rest : List Char
  line : Nat
  column : Nat

namespace Cursor

/-- A byte order mark is passed over, but it fills a column. -/
def start : List Char → Cursor
  | [] => ⟨[], 0, 0⟩
  | c :: cs => if c.toNat = 0xFEFF then ⟨cs, 0, 1⟩ else ⟨c :: cs, 0, 0⟩

def drop (c : Cursor) (n : Nat) : Cursor :=
  ⟨c.rest.drop n, c.line, c.column + n⟩

def spanLoop (p : Char → Bool) (line : Nat) : List Char → Nat → List Char → List Char × Cursor
  | seen, column, [] => (seen.reverse, ⟨[], line, column⟩)
  | seen, column, c :: cs =>
    if p c then spanLoop p line (c :: seen) (column + 1) cs else (seen.reverse, ⟨c :: cs, line, column⟩)

def span (p : Char → Bool) (c : Cursor) : List Char × Cursor :=
  spanLoop p c.line [] c.column c.rest

def skipBlanks (c : Cursor) : Cursor :=
  (c.span isBlank).2

def skipBreak (c : Cursor) : Cursor :=
  match c.rest with
  | [] => c
  | b :: cs => if isBreak b then ⟨cs, c.line + 1, 0⟩ else c

/-- Passes over blanks, a comment and the line break; nothing else may be there. -/
def skipRestOfLine? (c : Cursor) : Option Cursor :=
  let c := c.skipBlanks
  let c := if c.rest.head? = some '#' then (c.span fun d => !isBreak d).2 else c
  match c.rest with
  | [] => some c
  | b :: _ => if isBreak b then some c.skipBreak else none

def toTokenLoop (inFlow : Bool) : Bool → Bool → Nat → Nat → List Char → Bool × Cursor
  | _, fresh, line, column, [] => (fresh, ⟨[], line, column⟩)
  | inComment, fresh, line, column, c :: cs =>
    if isBreak c then toTokenLoop inFlow false (fresh || !inFlow) (line + 1) 0 cs
    else if inComment then toTokenLoop inFlow true fresh line (column + 1) cs
    else if c = ' ' ∨ (c = '\t' ∧ (inFlow ∨ !fresh)) then toTokenLoop inFlow false fresh line (column + 1) cs
    else if c = '#' then toTokenLoop inFlow true fresh line (column + 1) cs
    else (fresh, ⟨c :: cs, line, column⟩)

/-- Passes over blanks, comments and line breaks. `fresh` tells whether a key may stand here; a
tab does not count as indentation, and a new line of block style makes a place fresh. -/
def toToken (c : Cursor) (inFlow fresh : Bool) : Bool × Cursor :=
  toTokenLoop inFlow false fresh c.line c.column c.rest

end Cursor

end ClusterGateway.Yaml
