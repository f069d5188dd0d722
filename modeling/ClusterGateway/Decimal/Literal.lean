import ClusterGateway.Decimal.Binary64

/-!
# Decimal literals

A sign, digits with at most one point among or beside them, and perhaps a power of ten. The
number is the nearest one.
-/

namespace ClusterGateway.Decimal

structure Literal where
  negative : Bool
  digits : Nat
  exponent : Int
  deriving DecidableEq, Repr

namespace Literal

def digitsValue (ds : List Char) : Nat :=
  ds.foldl (fun n d => n * 10 + (d.toNat - 48)) 0

def sign : List Char → Bool × List Char
  | '-' :: cs => (true, cs)
  | '+' :: cs => (false, cs)
  | cs => (false, cs)

def power? : List Char → Option Int
  | [] => some 0
  | c :: cs =>
    if c = 'e' ∨ c = 'E' then
      let (negative, ds) := sign cs
      if ds.isEmpty ∨ !ds.all Char.isDigit then none
      else some (if negative then -(digitsValue ds : Int) else digitsValue ds)
    else none

def parse? (cs : List Char) : Option Literal := do
  let (negative, cs) := sign cs
  let whole := cs.takeWhile Char.isDigit
  let (fraction, rest) := match cs.dropWhile Char.isDigit with
    | '.' :: cs => (cs.takeWhile Char.isDigit, cs.dropWhile Char.isDigit)
    | cs => ([], cs)
  if whole.isEmpty ∧ fraction.isEmpty then none
  let power ← power? rest
  some ⟨negative, digitsValue (whole ++ fraction), power - fraction.length⟩

def value (l : Literal) : Binary64 :=
  let x := Binary64.ofDecimal l.digits l.exponent
  if l.negative then x.negate else x

end Literal

end ClusterGateway.Decimal
