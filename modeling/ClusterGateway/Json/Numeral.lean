import ClusterGateway.Json.Basic

/-!
# Numerals of JSON

A numeral is read one character at a time. Its digits are gathered in 64 bits; digits of the
integer part that do not fit raise the exponent, and those of the fraction are dropped. A plain
integer in range stays one. Any other numeral is the gathered digits, rounded, times or over a
rounded power of ten, rounded again, so it may miss the nearest number by a little.
-/

namespace ClusterGateway.Json

open Decimal (Binary64)

inductive Numeral.Phase where
  | sign
  /-- After a leading zero, which no digit may follow. -/
  | zero
  | whole
  | point
  | fraction
  | mark
  | markSign
  | power
  deriving DecidableEq, Repr

structure Numeral where
  phase : Numeral.Phase
  negative : Bool
  digits : Nat
  long : Bool
  full : Bool
  exponent : Int
  powerNegative : Bool
  power : Nat
  deriving DecidableEq, Repr

namespace Numeral

def start? (c : Char) : Option Numeral :=
  let n : Numeral := ⟨.sign, false, 0, false, false, 0, false, 0⟩
  if c = '-' then some { n with negative := true }
  else if c = '0' then some { n with phase := .zero }
  else if c.isDigit then some { n with phase := .whole, digits := c.toNat - 48 }
  else none

inductive Step where
  | more (n : Numeral)
  | stop
  | bad

def fits (n : Nat) : Bool := n < Nat.pow 2 64

def isPowerMark (c : Char) : Bool := c == 'e' || c == 'E'

def addWhole (n : Numeral) (d : Nat) : Numeral :=
  let next := n.digits * 10 + d
  if n.long || !fits next then { n with phase := .whole, long := true, exponent := n.exponent + 1 }
  else { n with phase := .whole, digits := next }

def addFraction (n : Numeral) (d : Nat) : Numeral :=
  let next := n.digits * 10 + d
  if n.full || !fits next then { n with phase := .fraction, full := true }
  else { n with phase := .fraction, digits := next, exponent := n.exponent - 1 }

def addPower (n : Numeral) (d : Nat) : Numeral :=
  { n with phase := .power, power := min (n.power * 10 + d) (Nat.pow 2 32) }

def step (n : Numeral) (c : Char) : Step :=
  let d := c.toNat - 48
  match n.phase with
  | .sign =>
    if c = '0' then .more { n with phase := .zero }
    else if c.isDigit then .more (n.addWhole d)
    else .bad
  | .zero =>
    if c.isDigit then .bad
    else if c = '.' then .more { n with phase := .point }
    else if isPowerMark c then .more { n with phase := .mark }
    else .stop
  | .whole =>
    if c.isDigit then .more (n.addWhole d)
    else if c = '.' then .more { n with phase := .point }
    else if isPowerMark c then .more { n with phase := .mark }
    else .stop
  | .point => if c.isDigit then .more (n.addFraction d) else .bad
  | .fraction =>
    if c.isDigit then .more (n.addFraction d)
    else if isPowerMark c then .more { n with phase := .mark }
    else .stop
  | .mark =>
    if c = '+' then .more { n with phase := .markSign }
    else if c = '-' then .more { n with phase := .markSign, powerNegative := true }
    else if c.isDigit then .more (n.addPower d)
    else .bad
  | .markSign => if c.isDigit then .more (n.addPower d) else .bad
  | .power => if c.isDigit then .more (n.addPower d) else .stop

def powerOfTen (k : Nat) : Binary64 := .ofDecimal 1 k

def scaleUp? (x : Binary64) (k : Nat) : Option Binary64 :=
  if x.isZero then some x
  else if 308 < k then none
  else
    let y := x.mul (powerOfTen k)
    if y.isFinite then some y else none

def scaleDown (x : Binary64) (k : Nat) : Binary64 :=
  go (k / 308 + 1) x k
where
  go : Nat → Binary64 → Nat → Binary64
    | 0, x, _ => x
    | rounds + 1, x, k =>
      if x.isZero then x
      else if k ≤ 308 then x.div (powerOfTen k)
      else go rounds (x.div (powerOfTen 308)) (k - 308)

def real? (n : Numeral) (exponent : Int) : Option Binary64 :=
  let x := Binary64.ofQuotient n.digits 1
  let y? := if 0 ≤ exponent then scaleUp? x exponent.toNat else some (scaleDown x (-exponent).toNat)
  y?.map fun y => if n.negative then y.negate else y

def value? (n : Numeral) : Option Number :=
  match n.phase with
  | .sign | .point | .mark | .markSign => none
  | .zero | .whole =>
    if n.long then (n.real? n.exponent).map .real
    else if !n.negative then some (.int n.digits)
    else if n.digits = 0 ∨ Nat.pow 2 63 < n.digits then (n.real? 0).map .real
    else some (.int (-(n.digits : Int)))
  | .fraction => (n.real? n.exponent).map .real
  | .power =>
    if Nat.pow 2 31 ≤ n.power then
      if n.digits = 0 ∨ n.powerNegative then some (.real (if n.negative then Binary64.zero.negate else .zero))
      else none
    else (n.real? (n.exponent + if n.powerNegative then -(n.power : Int) else n.power)).map .real

end Numeral

end ClusterGateway.Json
