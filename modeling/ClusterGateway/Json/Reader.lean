import ClusterGateway.Json.Numeral

/-!
# Reading JSON

The reader takes one character at a time and keeps the open arrays and objects on a stack, so
a text is read by a fold. At most 127 arrays and objects may be open at once, and only blanks
may follow the value. `parse?` puts the fields of objects in order, and of two with one name the
later wins; `parseAsWritten?` leaves all fields where they are.
-/

namespace ClusterGateway.Json

/-- An open array, or an open object with the name of the field whose value is due. -/
inductive Frame where
  | items (before : List Json)
  | fields (before : List (String × Json)) (name : String)

inductive Escape where
  | no
  | slash
  | unit (seen code : Nat)
  | second (high : Nat)
  | secondSlash (high : Nat)
  | secondUnit (high seen code : Nat)

inductive Expect where
  | value
  | valueOrClose
  | nameOrClose (fields : List (String × Json))
  | name (fields : List (String × Json))
  | colon (fields : List (String × Json)) (name : String)
  | afterValue (v : Json)
  /-- Inside a string; `owner` holds the fields of the object whose next name it is. -/
  | string (owner : Option (List (String × Json))) (read : List Char) (escape : Escape)
  | numeral (n : Numeral)
  | word (rest : List Char) (v : Json)

structure Reader where
  frames : List Frame
  expect : Expect

namespace Reader

def start : Reader := ⟨[], .value⟩

def maxDepth : Nat := 127

def isSpace (c : Char) : Bool :=
  c == ' ' || c == '\n' || c == '\r' || c == '\t'

def openValue? (r : Reader) (c : Char) : Option Reader :=
  let frames := r.frames
  if c = '"' then some ⟨frames, .string none [] .no⟩
  else if c = '[' then if frames.length < maxDepth then some ⟨.items [] :: frames, .valueOrClose⟩ else none
  else if c = '\x7b' then if frames.length < maxDepth then some ⟨frames, .nameOrClose []⟩ else none
  else if c = 't' then some ⟨frames, .word ['r', 'u', 'e'] (.bool true)⟩
  else if c = 'f' then some ⟨frames, .word ['a', 'l', 's', 'e'] (.bool false)⟩
  else if c = 'n' then some ⟨frames, .word ['u', 'l', 'l'] .null⟩
  else (Numeral.start? c).map fun n => ⟨frames, .numeral n⟩

abbrev Close := List (String × Json) → Json

def after? (close : Close) (frames : List Frame) (v : Json) (c : Char) : Option Reader :=
  if isSpace c then some ⟨frames, .afterValue v⟩
  else match frames with
  | [] => none
  | .items before :: rest =>
    if c = ',' then some ⟨.items (v :: before) :: rest, .value⟩
    else if c = ']' then some ⟨rest, .afterValue (.arr (v :: before).reverse)⟩
    else none
  | .fields before name :: rest =>
    if c = ',' then some ⟨rest, .name ((name, v) :: before)⟩
    else if c = '\x7d' then some ⟨rest, .afterValue (close ((name, v) :: before).reverse)⟩
    else none

def hexValue? (c : Char) : Option Nat :=
  let n := c.toNat
  if c.isDigit then some (n - 48)
  else if 97 ≤ n ∧ n ≤ 102 then some (n - 87)
  else if 65 ≤ n ∧ n ≤ 70 then some (n - 55)
  else none

def simpleEscape? (c : Char) : Option Char :=
  if c = '"' ∨ c = '\\' ∨ c = '/' then some c
  else if c = 'b' then some '\x08'
  else if c = 'f' then some '\x0c'
  else if c = 'n' then some '\n'
  else if c = 'r' then some '\r'
  else if c = 't' then some '\t'
  else none

def stringStep? (read : List Char) (escape : Escape) (c : Char) : Option (List Char × Escape) :=
  match escape with
  | .no => if c.toNat < 0x20 then none else if c = '\\' then some (read, .slash) else some (c :: read, .no)
  | .slash => if c = 'u' then some (read, .unit 0 0) else (simpleEscape? c).map fun d => (d :: read, .no)
  | .unit seen code => do
    let code := code * 16 + (← hexValue? c)
    if seen < 3 then some (read, .unit (seen + 1) code)
    else if 0xD800 ≤ code ∧ code < 0xDC00 then some (read, .second code)
    else if 0xDC00 ≤ code ∧ code < 0xE000 then none
    else some (Char.ofNat code :: read, .no)
  | .second high => if c = '\\' then some (read, .secondSlash high) else none
  | .secondSlash high => if c = 'u' then some (read, .secondUnit high 0 0) else none
  | .secondUnit high seen code => do
    let code := code * 16 + (← hexValue? c)
    if seen < 3 then some (read, .secondUnit high (seen + 1) code)
    else if 0xDC00 ≤ code ∧ code < 0xE000 then
      some (Char.ofNat (0x10000 + (high - 0xD800) * 0x400 + (code - 0xDC00)) :: read, .no)
    else none

def Escape.isDone : Escape → Bool
  | .no => true
  | _ => false

def step? (close : Close) (r : Reader) (c : Char) : Option Reader :=
  match r.expect with
  | .value => if isSpace c then some r else r.openValue? c
  | .valueOrClose =>
    if isSpace c then some r
    else if c = ']' then some ⟨r.frames.drop 1, .afterValue (.arr [])⟩
    else r.openValue? c
  | .nameOrClose fields =>
    if isSpace c then some r
    else if c = '\x7d' then some ⟨r.frames, .afterValue (.obj [])⟩
    else if c = '"' then some ⟨r.frames, .string (some fields) [] .no⟩
    else none
  | .name fields =>
    if isSpace c then some r
    else if c = '"' then some ⟨r.frames, .string (some fields) [] .no⟩
    else none
  | .colon fields name =>
    if isSpace c then some r
    else if c = ':' then some ⟨.fields fields name :: r.frames, .value⟩
    else none
  | .afterValue v => after? close r.frames v c
  | .string owner read escape =>
    if c = '"' ∧ Escape.isDone escape then
      let s := String.ofList read.reverse
      match owner with
      | none => some ⟨r.frames, .afterValue (.str s)⟩
      | some fields => some ⟨r.frames, .colon fields s⟩
    else (stringStep? read escape c).map fun (read, escape) => ⟨r.frames, .string owner read escape⟩
  | .numeral n =>
    match n.step c with
    | .more n => some ⟨r.frames, .numeral n⟩
    | .stop => n.value?.bind fun v => after? close r.frames (.num v) c
    | .bad => none
  | .word [] v => after? close r.frames v c
  | .word (d :: rest) v => if c = d then some ⟨r.frames, .word rest v⟩ else none

def finish? (r : Reader) : Option Json :=
  match r.frames, r.expect with
  | [], .afterValue v => some v
  | [], .numeral n => n.value?.map .num
  | [], .word [] v => some v
  | _, _ => none

def run? (close : Close) (r : Reader) : List Char → Option Reader
  | [] => some r
  | c :: cs => match r.step? close c with
    | none => none
    | some r => r.run? close cs

end Reader

def parse? (text : String) : Option Json :=
  (Reader.start.run? ofFields text.toList).bind Reader.finish?

def parseAsWritten? (text : String) : Option Json :=
  (Reader.start.run? obj text.toList).bind Reader.finish?

end ClusterGateway.Json
