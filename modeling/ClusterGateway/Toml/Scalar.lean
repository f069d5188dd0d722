import ClusterGateway.Decimal.Literal
import ClusterGateway.Toml.Value

/-!
# Numbers, dates and texts of TOML

Every reader takes a beginning of the text and leaves the rest; what may follow is up to the
caller. Line ends are line feeds here.
-/

namespace ClusterGateway.Toml

open Decimal (Binary64)

abbrev Scan (α : Type) := List Char → Option (α × List Char)

def isBlank (c : Char) : Bool := c == ' ' || c == '\t'

def isTextChar (c : Char) : Bool :=
  c == '\t' || (0x20 ≤ c.toNat && c.toNat != 0x7F)

def hexValue? (c : Char) : Option Nat :=
  let n := c.toNat
  if c.isDigit then some (n - 48)
  else if 97 ≤ n ∧ n ≤ 102 then some (n - 87)
  else if 65 ≤ n ∧ n ≤ 70 then some (n - 55)
  else none

/-! ## Numbers -/

def isNumberChar (c : Char) : Bool :=
  c.isAlphanum || c == '_' || c == '+' || c == '-' || c == '.'

/-- The digits of a group, where one underscore may stand between two. -/
def digits? (isDigit : Char → Bool) : List Char → Option (List Char)
  | [] => none
  | [c] => if isDigit c then some [c] else none
  | c :: '_' :: cs => if isDigit c then (digits? isDigit cs).map (c :: ·) else none
  | c :: cs => if isDigit c then (digits? isDigit cs).map (c :: ·) else none

def radixValue? (radix : Nat) (cs : List Char) : Option Nat :=
  let isDigit c := match hexValue? c with
    | some d => decide (d < radix)
    | none => false
  (digits? isDigit cs).map (·.foldl (fun n c => n * radix + (hexValue? c).getD 0) 0)

def unsigned : List Char → List Char
  | '+' :: cs | '-' :: cs => cs
  | cs => cs

def wholeDigits? (cs : List Char) : Option (List Char) :=
  match cs with
  | '0' :: _ :: _ => none
  | _ => digits? Char.isDigit cs

def integer? (cs : List Char) : Option Value := do
  let n : Int ← match cs with
    | '0' :: 'x' :: cs => (radixValue? 16 cs).map Int.ofNat
    | '0' :: 'o' :: cs => (radixValue? 8 cs).map Int.ofNat
    | '0' :: 'b' :: cs => (radixValue? 2 cs).map Int.ofNat
    | _ => do
      let n := Decimal.Literal.digitsValue (← wholeDigits? (unsigned cs))
      some (if cs.head? = some '-' then -(n : Int) else n)
  if -Int.pow 2 63 ≤ n ∧ n < Int.pow 2 63 then some (.integer n) else none

def isPowerMark (c : Char) : Bool := c == 'e' || c == 'E'

def power? : List Char → Option (List Char)
  | [] => some []
  | c :: cs =>
    if isPowerMark c then
      (digits? Char.isDigit (unsigned cs)).map fun ds => 'e' :: cs.take (cs.length - (unsigned cs).length) ++ ds
    else none

/-- A number with a point or a power. One that is too large for binary floating point is refused. -/
def float? (cs : List Char) : Option Value := do
  let body := unsigned cs
  let whole := body.takeWhile fun c => c.isDigit || c == '_'
  let rest := body.drop whole.length
  let ds ← wholeDigits? whole
  let (fraction, rest) ← match rest with
    | '.' :: rest => do
      let fraction := rest.takeWhile fun c => c.isDigit || c == '_'
      some ('.' :: (← digits? Char.isDigit fraction), rest.drop fraction.length)
    | _ => some ([], rest)
  if fraction.isEmpty ∧ rest.isEmpty then none
  let x := (← Decimal.Literal.parse? (ds ++ fraction ++ (← power? rest))).value
  if cs.head? = some '-' then some (.float x.negate) else if x.isFinite then some (.float x) else none

def specialFloat? (cs : List Char) : Option Value :=
  let x := if unsigned cs = "inf".toList then some Binary64.infinity
    else if unsigned cs = "nan".toList then some ⟨0x7FF8000000000000⟩
    else none
  x.map fun x => .float (if cs.head? = some '-' then x.negate else x)

def number? : Scan Value := fun cs =>
  let word := cs.takeWhile isNumberChar
  (specialFloat? word <|> float? word <|> integer? word).map fun v => (v, cs.drop word.length)

/-! ## Dates and times -/

def fixedDigits? (n : Nat) : Scan Nat := fun cs =>
  let ds := cs.take n
  if ds.length = n ∧ ds.all Char.isDigit then some (Decimal.Literal.digitsValue ds, cs.drop n) else none

def char? (c : Char) : List Char → Option (List Char)
  | d :: cs => if d = c then some cs else none
  | [] => none

def monthLength (year month : Nat) : Nat :=
  if month = 2 then
    if year % 4 = 0 ∧ (year % 100 ≠ 0 ∨ year % 400 = 0) then 29 else 28
  else if month = 4 ∨ month = 6 ∨ month = 9 ∨ month = 11 then 30
  else 31

def date? (cs : List Char) : Option (List Char) := do
  let (year, cs) ← fixedDigits? 4 cs
  let (month, cs) ← fixedDigits? 2 (← char? '-' cs)
  let (day, cs) ← fixedDigits? 2 (← char? '-' cs)
  if 1 ≤ month ∧ month ≤ 12 ∧ 1 ≤ day ∧ day ≤ monthLength year month then some cs else none

def time? (cs : List Char) : Option (List Char) := do
  let (hour, cs) ← fixedDigits? 2 cs
  let (minute, cs) ← fixedDigits? 2 (← char? ':' cs)
  let (second, cs) ← fixedDigits? 2 (← char? ':' cs)
  if 23 < hour ∨ 59 < minute ∨ 60 < second then none
  match cs with
  | '.' :: cs => if (cs.head?.map Char.isDigit).getD false then some (cs.dropWhile Char.isDigit) else none
  | cs => some cs

def offset (cs : List Char) : List Char :=
  match cs with
  | 'Z' :: cs | 'z' :: cs => cs
  | c :: rest =>
    let size := do
      let (hours, rest) ← fixedDigits? 2 rest
      let (minutes, rest) ← fixedDigits? 2 (← char? ':' rest)
      if hours ≤ 23 ∧ minutes ≤ 59 then some rest else none
    if c = '+' ∨ c = '-' then size.getD cs else cs
  | [] => []

def afterMoment? (cs : List Char) : Option (List Char) :=
  match date? cs with
  | none => time? cs
  | some (c :: rest) =>
    if c = 'T' ∨ c = 't' ∨ c = ' ' then some (((time? rest).map offset).getD (c :: rest))
    else some (c :: rest)
  | some [] => some []

def moment? : Scan Value := fun cs =>
  (afterMoment? cs).map fun rest => (.moment (String.ofList (cs.take (cs.length - rest.length))), rest)

/-! ## Texts -/

inductive Phase where
  | text
  | slash
  | code (due value : Nat)
  /-- Blanks after a slash, which a line end has to follow or has followed. -/
  | trim (broken : Bool)

def simpleEscape? (c : Char) : Option Char :=
  if c = 'b' then some '\x08'
  else if c = 't' then some '\t'
  else if c = 'n' then some '\n'
  else if c = 'f' then some '\x0c'
  else if c = 'r' then some '\r'
  else if c = '"' ∨ c = '\\' then some c
  else none

def codeLength? (c : Char) : Option Nat :=
  if c = 'u' then some 4 else if c = 'U' then some 8 else none

def escape? (lines : Bool) (seen : List Char) (c : Char) : Option (List Char × Phase) :=
  if lines && (isBlank c || c == '\n') then some (seen, .trim (c == '\n'))
  else match codeLength? c with
  | some n => some (seen, .code n 0)
  | none => (simpleEscape? c).map fun d => (d :: seen, .text)

def digit? (seen : List Char) (due value : Nat) (c : Char) : Option (List Char × Phase) := do
  let value := value * 16 + (← hexValue? c)
  if 1 < due then some (seen, .code (due - 1) value)
  else if value.isValidChar then some (Char.ofNat value :: seen, .text)
  else none

def step? (lines : Bool) (seen : List Char) (phase : Phase) (c : Char) : Option (List Char × Phase) :=
  let plain :=
    if c = '\\' then some (seen, .slash)
    else if (lines && c == '\n') || isTextChar c then some (c :: seen, .text)
    else none
  match phase with
  | .text => plain
  | .slash => escape? lines seen c
  | .code due value => digit? seen due value c
  | .trim broken =>
    if c = '\n' then some (seen, .trim true)
    else if isBlank c then some (seen, .trim broken)
    else if broken then plain
    else none

def Phase.mayEnd : Phase → Bool
  | text | trim true => true
  | _ => false

def finish (seen rest : List Char) : String × List Char :=
  (String.ofList seen.reverse, rest)

def basicRest? : List Char → Phase → Scan String
  | _, _, [] => none
  | seen, phase, c :: cs =>
    if c = '"' ∧ phase.mayEnd then some (finish seen cs)
    else match step? false seen phase c with
    | none => none
    | some (seen, phase) => basicRest? seen phase cs

/-- How many quotes before the three that close a text belong to it. -/
def closing? (q : Char) (cs : List Char) : Option Nat :=
  let n := (cs.take 5).takeWhile (· == q) |>.length
  if 3 ≤ n then some (n - 3) else none

def longBasicRest? : List Char → Phase → Scan String
  | _, _, [] => none
  | seen, phase, c :: cs =>
    match if phase.mayEnd then closing? '"' (c :: cs) else none with
    | some n => some (finish (List.replicate n '"' ++ seen) ((c :: cs).drop (n + 3)))
    | none =>
      match step? true seen phase c with
      | none => none
      | some (seen, phase) => longBasicRest? seen phase cs

def literalRest? : List Char → Scan String
  | _, [] => none
  | seen, c :: cs =>
    if c = '\x27' then some (finish seen cs)
    else if isTextChar c then literalRest? (c :: seen) cs
    else none

def longLiteralRest? : List Char → Scan String
  | _, [] => none
  | seen, c :: cs =>
    match closing? '\x27' (c :: cs) with
    | some n => some (finish (List.replicate n '\x27' ++ seen) ((c :: cs).drop (n + 3)))
    | none => if c = '\n' ∨ isTextChar c then longLiteralRest? (c :: seen) cs else none

/-- A line end right after the opening quotes does not count. -/
def afterOpening : List Char → List Char
  | '\n' :: cs => cs
  | cs => cs

def shortText? : Scan String
  | '"' :: cs => basicRest? [] .text cs
  | '\x27' :: cs => literalRest? [] cs
  | _ => none

def text? : Scan String
  | '"' :: '"' :: '"' :: cs => longBasicRest? [] .text (afterOpening cs)
  | '\x27' :: '\x27' :: '\x27' :: cs => longLiteralRest? [] (afterOpening cs)
  | cs => shortText? cs

/-! ## Scalars -/

def word? (word : String) (v : Value) : Scan Value := fun cs =>
  if word.toList.isPrefixOf cs then some (v, cs.drop word.length) else none

def scalar? : Scan Value := fun cs =>
  match cs with
  | [] => none
  | c :: _ =>
    if c = '"' ∨ c = '\x27' then (text? cs).map fun (s, rest) => (.string s, rest)
    else if c = 't' then word? "true" (.boolean true) cs
    else if c = 'f' then word? "false" (.boolean false) cs
    else if c.isDigit ∨ c = '+' ∨ c = '-' ∨ c = 'i' ∨ c = 'n' then moment? cs <|> number? cs
    else none

end ClusterGateway.Toml
