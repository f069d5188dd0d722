import ClusterGateway.Toml.Scalar
import ClusterGateway.Toml.Table

/-!
# Reading TOML

A document is a list of lines, each blank, a header, or a key with its value, which may go over
several lines inside brackets. Fewer than 80 brackets may be open at once, and fewer than 80
names may be joined by dots.
-/

namespace ClusterGateway.Toml

def maxDepth : Nat := 79

def skipBlanks (cs : List Char) : List Char := cs.dropWhile isBlank

def comment? (cs : List Char) : Option (List Char) :=
  let rest := cs.dropWhile isTextChar
  match rest with
  | [] => some []
  | c :: _ => if c = '\n' then some rest else none

def endOfLine? (cs : List Char) : Option (List Char) := do
  let cs := skipBlanks cs
  let cs ← if cs.head? = some '#' then comment? cs else some cs
  match cs with
  | [] => some []
  | c :: rest => if c = '\n' then some rest else none

/-! ## Keys -/

def isBareChar (c : Char) : Bool :=
  c.isAlphanum || c == '_' || c == '-'

def name? : Scan String := fun cs =>
  match cs with
  | '"' :: _ | '\x27' :: _ => shortText? cs
  | _ =>
    let word := cs.takeWhile isBareChar
    if word.isEmpty then none else some (String.ofList word, cs.drop word.length)

/-- The names of a key after `seen`, which are held newest first. -/
def names? : Nat → List String → Scan (List String)
  | 0, _, _ => none
  | fuel + 1, seen, cs => do
    let (name, cs) ← name? (skipBlanks cs)
    match skipBlanks cs with
    | '.' :: cs => names? fuel (name :: seen) cs
    | cs => some (name :: seen, cs)

def key? : Scan (List String × String) := fun cs => do
  match ← names? maxDepth [] cs with
  | (name :: path, cs) => some ((path.reverse, name), cs)
  | ([], _) => none

/-! ## Values -/

def skipLines? : Nat → List Char → Option (List Char)
  | 0, _ => none
  | fuel + 1, cs =>
    match skipBlanks cs with
    | '\n' :: cs => skipLines? fuel cs
    | '#' :: cs => (comment? cs).bind (skipLines? fuel)
    | cs => some cs

def inlineTable? (pairs : List ((List String × String) × Value)) : Option Value :=
  (pairs.foldlM (fun es ((path, name), v) => Entries.setKey? path name v es) []).map fun es =>
    (Item.table .declared es).toValue

mutual

/-- Reads a value inside of `depth` brackets. Every call passes over a character or two, so a
few calls for each character are enough. -/
def value? : Nat → Nat → Scan Value
  | 0, _, _ => none
  | fuel + 1, depth, cs =>
    match cs with
    | '[' :: cs => if depth < maxDepth then items? fuel (depth + 1) [] cs else none
    | '\x7b' :: cs => if depth < maxDepth then pairs? fuel (depth + 1) [] cs else none
    | cs => scalar? cs

def items? : Nat → Nat → List Value → Scan Value
  | 0, _, _, _ => none
  | fuel + 1, depth, seen, cs => do
    match ← skipLines? (cs.length + 1) cs with
    | ']' :: cs => some (.array seen.reverse, cs)
    | cs =>
      let (v, cs) ← value? fuel depth cs
      match ← skipLines? (cs.length + 1) cs with
      | ',' :: cs => items? fuel depth (v :: seen) cs
      | ']' :: cs => some (.array (v :: seen).reverse, cs)
      | _ => none

def pairs? : Nat → Nat → List ((List String × String) × Value) → Scan Value
  | 0, _, _, _ => none
  | fuel + 1, depth, seen, cs =>
    match seen, skipBlanks cs with
    | [], '\x7d' :: cs => some (.table [], cs)
    | _, cs => do
      let (key, cs) ← key? cs
      match cs with
      | '=' :: cs =>
        let (v, cs) ← value? fuel depth (skipBlanks cs)
        match skipBlanks cs with
        | ',' :: cs => pairs? fuel depth ((key, v) :: seen) cs
        | '\x7d' :: cs => (inlineTable? ((key, v) :: seen).reverse).map fun t => (t, cs)
        | _ => none
      | _ => none

end

/-! ## Documents -/

def header? (d : Draft) (inArray : Bool) (cs : List Char) : Option (Draft × List Char) := do
  let ((path, name), cs) ← key? cs
  let cs ← char? ']' cs
  let cs ← if inArray then char? ']' cs else some cs
  some (← d.header? path name inArray, ← endOfLine? cs)

def line? (d : Draft) (cs : List Char) : Option (Draft × List Char) :=
  match cs with
  | '[' :: '[' :: cs => header? d true cs
  | '[' :: cs => header? d false cs
  | cs => do
    let ((path, name), cs) ← key? cs
    let cs ← char? '=' cs
    let (v, cs) ← value? (2 * cs.length + 2) 0 (skipBlanks cs)
    some (← d.set? path name v, ← endOfLine? cs)

def lines? : Nat → Draft → List Char → Option Draft
  | 0, _, _ => none
  | fuel + 1, d, cs =>
    match skipBlanks cs with
    | [] => some d
    | '\n' :: cs => lines? fuel d cs
    | '#' :: cs => (comment? cs).bind (lines? fuel d)
    | cs => (line? d cs).bind fun (d, cs) => lines? fuel d cs

def withoutMark : List Char → List Char
  | [] => []
  | c :: cs => if c.toNat = 0xFEFF then cs else c :: cs

def withLineFeeds : List Char → List Char → List Char
  | seen, '\r' :: '\n' :: cs => withLineFeeds ('\n' :: seen) cs
  | seen, c :: cs => withLineFeeds (c :: seen) cs
  | seen, [] => seen.reverse

def parse? (text : String) : Option (List (String × Value)) := do
  let cs := withLineFeeds [] (withoutMark text.toList)
  let entries ← (← lines? (cs.length + 1) .start cs).close?
  some (Item.entryValues entries)

end ClusterGateway.Toml
