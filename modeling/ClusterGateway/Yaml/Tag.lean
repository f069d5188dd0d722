import ClusterGateway.Yaml.Cursor

/-!
# Tags and directives

A tag is written with a handle and a suffix, where the handle stands for a text that a directive
may set. `!` stands for itself and `!!` for the core tags unless a directive says otherwise.
-/

namespace ClusterGateway.Yaml

structure Tag where
  handle : String
  suffix : String
  deriving DecidableEq, Repr

inductive Directive where
  | version (major minor : Nat)
  | tag (handle text : String)
  deriving DecidableEq, Repr

namespace Tag

def isUriChar (verbatim : Bool) (c : Char) : Bool :=
  isWordChar c || ";/?:@&=+$.!~*\x27()".toList.contains c ||
    (verbatim && (c == ',' || c == '[' || c == ']'))

/-- How many bytes follow the first byte of a character, and what it gives of the code. -/
def leadByte? (b : Nat) : Option (Nat × Nat) :=
  if b < 0x80 then some (0, b)
  else if 0xC0 ≤ b ∧ b < 0xE0 then some (1, b - 0xC0)
  else if 0xE0 ≤ b ∧ b < 0xF0 then some (2, b - 0xE0)
  else if 0xF0 ≤ b ∧ b < 0xF8 then some (3, b - 0xF0)
  else none

structure UriReader where
  text : List Char
  /-- Escaped bytes that a character still lacks, and its code so far. -/
  due : Nat
  code : Nat
  column : Nat

def UriReader.byte? (r : UriReader) (b : Nat) : Option UriReader := do
  let (due, code) ←
    if r.due = 0 then leadByte? b
    else if 0x80 ≤ b ∧ b < 0xC0 then some (r.due - 1, r.code * 64 + (b - 0x80))
    else none
  if 0 < due then some ⟨r.text, due, code, r.column + 3⟩
  else if code.isValidChar then some ⟨Char.ofNat code :: r.text, 0, 0, r.column + 3⟩
  else none

def uriLoop? (verbatim : Bool) (line : Nat) : UriReader → List Char → Option (List Char × Cursor)
  | r, '%' :: a :: b :: cs =>
    match hexValue? a, hexValue? b with
    | some a, some b =>
      match r.byte? (a * 16 + b) with
      | some r => uriLoop? verbatim line r cs
      | none => none
    | _, _ => none
  | r, [] => if r.due = 0 then some (r.text, ⟨[], line, r.column⟩) else none
  | r, c :: cs =>
    if 0 < r.due ∨ c = '%' then none
    else if isUriChar verbatim c then uriLoop? verbatim line ⟨c :: r.text, 0, 0, r.column + 1⟩ cs
    else some (r.text, ⟨c :: cs, line, r.column⟩)

def uri? (verbatim : Bool) (seen : List Char) (c : Cursor) : Option (String × Cursor) :=
  (uriLoop? verbatim c.line ⟨seen.reverse, 0, 0, c.column⟩ c.rest).map fun (text, c) =>
    (String.ofList text.reverse, c)

def nonemptyUri? (verbatim : Bool) (c : Cursor) : Option (String × Cursor) :=
  (uri? verbatim [] c).bind fun (text, c) => if text.isEmpty then none else some (text, c)

/-- `!`, word characters and perhaps another `!`. -/
def handle? (c : Cursor) : Option (List Char × Cursor) :=
  if c.rest.head? ≠ some '!' then none
  else
    let (word, c) := (c.drop 1).span isWordChar
    if c.rest.head? = some '!' then some ('!' :: word ++ ['!'], c.drop 1) else some ('!' :: word, c)

def isNamed (handle : List Char) : Bool :=
  2 ≤ handle.length && handle.getLast? == some '!'

def read? (c : Cursor) : Option (Tag × Cursor) :=
  if (c.rest.drop 1).head? = some '<' then do
    let (suffix, c) ← nonemptyUri? true (c.drop 2)
    if c.rest.head? = some '>' then some (⟨"", suffix⟩, c.drop 1) else none
  else do
    let (handle, c) ← handle? c
    if isNamed handle then
      let (suffix, c) ← nonemptyUri? false c
      some (⟨String.ofList handle, suffix⟩, c)
    else
      let (suffix, c) ← uri? false (handle.drop 1) c
      some (if suffix.isEmpty then ⟨"", "!"⟩ else ⟨"!", suffix⟩, c)

/-- A tag, which a blank, a line break or, inside brackets, a comma has to follow. -/
def scan? (inFlow : Bool) (c : Cursor) : Option (Tag × Cursor) := do
  let (tag, c) ← read? c
  if endsWord c.rest ∨ (inFlow ∧ c.rest.head? = some ',') then some (tag, c) else none

def coreText : String := "tag:yaml.org,2002:"

/-- The tag in full. What a directive says of a handle goes before what it stands for otherwise. -/
def resolve? (handles : List (String × String)) (t : Tag) : Option String :=
  if t.handle.isEmpty then some t.suffix
  else
    match (handles ++ [("!", "!"), ("!!", coreText)]).lookup t.handle with
    | some text => some (text ++ t.suffix)
    | none => none

end Tag

namespace Directive

def number? (c : Cursor) : Option (Nat × Cursor) :=
  let (digits, c) := c.span Char.isDigit
  if digits.isEmpty ∨ 9 < digits.length then none
  else some (digits.foldl (fun n d => n * 10 + (d.toNat - 48)) 0, c)

def version? (c : Cursor) : Option (Directive × Cursor) := do
  let (major, c) ← number? c.skipBlanks
  if c.rest.head? = some '.' then
    let (minor, c) ← number? (c.drop 1)
    some (.version major minor, c)
  else none

def tag? (c : Cursor) : Option (Directive × Cursor) := do
  let (handle, c) ← Tag.handle? c.skipBlanks
  let c' := c.skipBlanks
  if (handle = ['!'] ∨ Tag.isNamed handle) ∧ c.column < c'.column then
    let (text, c) ← Tag.nonemptyUri? true c'
    if endsWord c.rest then some (.tag (String.ofList handle) text, c) else none
  else none

def scan? (c : Cursor) : Option (Directive × Cursor) := do
  let (name, c) := (c.drop 1).span isWordChar
  if name.isEmpty ∨ !endsWord c.rest then none
  let (d, c) ←
    if name = "YAML".toList then version? c else if name = "TAG".toList then tag? c else none
  let c ← c.skipRestOfLine?
  some (d, c)

end Directive

end ClusterGateway.Yaml
