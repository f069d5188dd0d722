import ClusterGateway.Decimal.Literal
import ClusterGateway.Yaml.Node

/-!
# What a scalar stands for

A plain scalar without a tag may be null, a truth value, an integer, or a number; all else is
text. Digits after a leading zero are text, and so is a number too large for binary floating
point. A core tag asks for one reading, and the tag of an application is told apart.
-/

namespace ClusterGateway.Yaml

open Decimal (Binary64)

inductive Atom where
  | null
  | bool (b : Bool)
  | int (n : Int)
  | wide
  | real (x : Binary64)
  | special (name : String)
  | text (s : String)
  deriving DecidableEq, Repr

namespace Atom

def isNullWord (s : String) : Bool :=
  s == "null" || s == "Null" || s == "NULL" || s == "~"

def bool? (s : String) : Option Bool :=
  if s = "true" ∨ s = "True" ∨ s = "TRUE" then some true
  else if s = "false" ∨ s = "False" ∨ s = "FALSE" then some false
  else none

def digitValue? (radix : Nat) (c : Char) : Option Nat :=
  (hexValue? c).bind fun d => if d < radix then some d else none

def digits? (radix : Nat) : List Char → Option Nat
  | [] => none
  | cs => cs.foldlM (fun n c => (digitValue? radix c).map (n * radix + ·)) 0

def radixed? : List Char → Option Nat
  | '0' :: 'x' :: cs => digits? 16 cs
  | '0' :: 'o' :: cs => digits? 8 cs
  | '0' :: 'b' :: cs => digits? 2 cs
  | _ => none

def unsigned : List Char → List Char
  | '+' :: cs | '-' :: cs => cs
  | cs => cs

def isZeroLed (cs : List Char) : Bool :=
  match unsigned cs with
  | '0' :: c :: cs => (c :: cs).all Char.isDigit
  | _ => false

def integer? (cs : List Char) : Option Int :=
  match radixed? (unsigned cs) <|> (if isZeroLed cs then none else digits? 10 (unsigned cs)) with
  | none => none
  | some n => if cs.head? = some '-' then some (-(n : Int)) else some n

def ofInteger? (cs : List Char) : Option Atom := do
  let n ← integer? cs
  if -Int.pow 2 63 ≤ n ∧ n < Int.pow 2 64 then some (int n)
  else if -Int.pow 2 127 ≤ n ∧ n < Int.pow 2 128 then some wide
  else none

def special? (s : String) : Option String :=
  if s = ".inf" ∨ s = ".Inf" ∨ s = ".INF" ∨ s = "+.inf" ∨ s = "+.Inf" ∨ s = "+.INF" then some ".inf"
  else if s = "-.inf" ∨ s = "-.Inf" ∨ s = "-.INF" then some "-.inf"
  else if s = ".nan" ∨ s = ".NaN" ∨ s = ".NAN" then some ".nan"
  else none

def ofReal? (s : String) : Option Atom :=
  match special? s with
  | some name => some (special name)
  | none => do
    let x := (← Decimal.Literal.parse? s.toList).value
    if x.isFinite then some (real x) else none

def ofPlain (s : String) : Atom :=
  if s.isEmpty ∨ isNullWord s then null
  else match bool? s with
  | some b => bool b
  | none =>
    match ofInteger? s.toList with
    | some a => a
    | none => if isZeroLed s.toList then text s else (ofReal? s).getD (text s)

def localTag? (tag : Option String) : Option String :=
  match tag.map String.toList with
  | some ('!' :: name) => some (String.ofList name)
  | _ => none

/-- The reading that a tag of the core asks for; other tags make a text. -/
def ofTagged? (tag s : String) : Option Atom :=
  if tag = Tag.coreText ++ "null" then if isNullWord s then some null else none
  else if tag = Tag.coreText ++ "bool" then (bool? s).map bool
  else if tag = Tag.coreText ++ "int" then ofInteger? s.toList
  else if tag = Tag.coreText ++ "float" then ofReal? s
  else some (text s)

def untagged (s : String) (plain : Bool) : Atom :=
  if plain then ofPlain s else text s

def ofScalar? (tag : Option String) (s : String) (plain : Bool) : Option Atom :=
  match tag with
  | none => some (untagged s plain)
  | some tag => ofTagged? tag s

end Atom

end ClusterGateway.Yaml
