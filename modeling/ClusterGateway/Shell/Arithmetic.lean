import ClusterGateway.Shell.Lexer

/-!
# Arithmetic in a shell

Integers with the operators of C from disjunction to multiplication. A name stands for the
number in its variable.
-/

namespace ClusterGateway.Shell.Arithmetic

inductive Token where
  | number (n : Int)
  | name (s : String)
  | op (s : String)
  deriving DecidableEq, Repr

def digits (cs : List Char) : Nat :=
  cs.foldl (fun n c => n * 10 + (c.toNat - 48)) 0

def hexDigit? (c : Char) : Option Nat :=
  if c.isDigit then some (c.toNat - 48)
  else if 'a' ≤ c ∧ c ≤ 'f' then some (c.toNat - 87)
  else if 'A' ≤ c ∧ c ≤ 'F' then some (c.toNat - 55)
  else none

/-- A number in base ten, or eight after a zero, or sixteen after a zero and an x. -/
def natural? (cs : List Char) : Option Nat :=
  let inBase (base : Nat) (cs : List Char) : Option Nat := do
    let ds ← cs.mapM hexDigit?
    if ds.isEmpty || ds.any (base ≤ ·) then none
    else return ds.foldl (fun n d => n * base + d) 0
  match cs with
  | '0' :: 'x' :: rest | '0' :: 'X' :: rest => inBase 16 rest
  | '0' :: rest => if rest.isEmpty then some 0 else inBase 8 rest
  | cs => inBase 10 cs

def pairs : List (List Char) :=
  [['|', '|'], ['&', '&'], ['=', '='], ['!', '='], ['<', '='], ['>', '=']]

def tokens : Nat → List Char → List Token
  | 0, _ => []
  | _, [] => []
  | fuel + 1, c :: rest =>
    if Shell.Token.isBlank c || c == '\n' || c == '$' then tokens fuel rest
    else if c.isDigit then
      .number ((natural? (c :: rest.takeWhile Char.isAlphanum)).getD 0) ::
        tokens fuel (rest.dropWhile Char.isAlphanum)
    else if Shell.Token.isNameStart c then
      .name (String.ofList (c :: rest.takeWhile Shell.Token.isNameChar)) ::
        tokens fuel (rest.dropWhile Shell.Token.isNameChar)
    else match pairs.find? (·.isPrefixOf (c :: rest)) with
      | some pair => .op (String.ofList pair) :: tokens fuel (rest.drop 1)
      | none => .op (String.singleton c) :: tokens fuel rest

def levels : List (List String) :=
  [["||"], ["&&"], ["==", "!="], ["<", ">", "<=", ">="], ["+", "-"], ["*", "/", "%"]]

def truth (b : Bool) : Int := if b then 1 else 0

def compute? (op : String) (a b : Int) : Option Int :=
  match op with
  | "||" => some (truth (a ≠ 0 || b ≠ 0))
  | "&&" => some (truth (a ≠ 0 && b ≠ 0))
  | "==" => some (truth (a = b))
  | "!=" => some (truth (a ≠ b))
  | "<" => some (truth (a < b))
  | ">" => some (truth (b < a))
  | "<=" => some (truth (a ≤ b))
  | ">=" => some (truth (b ≤ a))
  | "+" => some (a + b)
  | "-" => some (a - b)
  | "*" => some (a * b)
  | "/" => if b = 0 then none else some (a.tdiv b)
  | "%" => if b = 0 then none else some (a.tmod b)
  | _ => none

mutual

def binary? (get : String → Int) (fuel : Nat) (levels : List (List String)) (ts : List Token) :
    Option (Int × List Token) :=
  match fuel with
  | 0 => none
  | fuel + 1 =>
    match levels with
    | [] => unary? get fuel ts
    | ops :: tighter => do
      let (a, rest) ← binary? get fuel tighter ts
      binaryRest? get fuel ops tighter a rest

def binaryRest? (get : String → Int) (fuel : Nat) (ops : List String) (tighter : List (List String))
    (a : Int) (ts : List Token) : Option (Int × List Token) :=
  match fuel with
  | 0 => none
  | fuel + 1 =>
    match ts with
    | .op s :: rest =>
      if ops.contains s then do
        let (b, rest) ← binary? get fuel tighter rest
        binaryRest? get fuel ops tighter (← compute? s a b) rest
      else some (a, ts)
    | _ => some (a, ts)

def unary? (get : String → Int) (fuel : Nat) (ts : List Token) : Option (Int × List Token) :=
  match fuel with
  | 0 => none
  | fuel + 1 =>
    match ts with
    | .number n :: rest => some (n, rest)
    | .name s :: rest => some (get s, rest)
    | .op "-" :: rest => (unary? get fuel rest).map fun (a, rest) => (-a, rest)
    | .op "+" :: rest => unary? get fuel rest
    | .op "!" :: rest => (unary? get fuel rest).map fun (a, rest) => (truth (a = 0), rest)
    | .op "(" :: rest => do
      let (a, rest) ← binary? get fuel levels rest
      match rest with
      | .op ")" :: rest => return (a, rest)
      | _ => none
    | _ => none

end

def eval? (get : String → Int) (text : String) : Option Int := do
  let ts := tokens (text.length + 1) text.toList
  let (a, rest) ← binary? get (20 * ts.length + 20) levels ts
  if rest.isEmpty then some a else none

def operand? (s : String) : Option Int :=
  match s.toList with
  | '-' :: cs => (natural? cs).map fun n => -(n : Int)
  | '+' :: cs | cs => (natural? cs).map fun n => (n : Int)

def toInt? (s : String) : Option Int :=
  match s.toList with
  | '-' :: cs => if cs.isEmpty || !cs.all Char.isDigit then none else some (-(digits cs : Int))
  | '+' :: cs => if cs.isEmpty || !cs.all Char.isDigit then none else some (digits cs)
  | cs => if cs.isEmpty || !cs.all Char.isDigit then none else some (digits cs)

end ClusterGateway.Shell.Arithmetic
