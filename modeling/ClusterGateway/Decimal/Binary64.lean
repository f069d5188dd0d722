/-!
# Binary floating point in exact arithmetic

A 64-bit number is kept as its bits. Rounding goes to the nearest value and a tie to the even
significand; it is done on quotients of natural numbers, so nothing here depends on the machine.
`shortest` gives the fewest decimal digits that read back, and of those the nearest.
-/

namespace ClusterGateway.Decimal

structure Binary64 where
  bits : UInt64
  deriving DecidableEq, Repr, Inhabited

namespace Binary64

def signBit : Nat := Nat.pow 2 63

def zero : Binary64 := ⟨0⟩

def infinity : Binary64 := ⟨0x7FF0000000000000⟩

def magnitudeBits (x : Binary64) : Nat := x.bits.toNat % signBit

def isNegative (x : Binary64) : Bool := signBit ≤ x.bits.toNat

def isFinite (x : Binary64) : Bool := x.magnitudeBits < infinity.bits.toNat

def isZero (x : Binary64) : Bool := x.magnitudeBits == 0

def negate (x : Binary64) : Binary64 := ⟨x.bits ^^^ 0x8000000000000000⟩

/-- A finite magnitude as `significand * 2 ^ (scale - 1074)`. -/
def significand (x : Binary64) : Nat :=
  let b := x.magnitudeBits
  if b < Nat.pow 2 52 then b else Nat.pow 2 52 + b % Nat.pow 2 52

def scale (x : Binary64) : Nat :=
  let b := x.magnitudeBits
  if b < Nat.pow 2 52 then 0 else b / Nat.pow 2 52 - 1

def quotient (x : Binary64) : Nat × Nat :=
  if 1074 ≤ x.scale then (x.significand * Nat.pow 2 (x.scale - 1074), 1)
  else (x.significand, Nat.pow 2 (1074 - x.scale))

/-- `num / den` rounded to the nearest number, a tie to the even one. -/
def ofQuotient (num den : Nat) : Binary64 :=
  if num = 0 ∨ den = 0 then zero
  else
    let guess : Int := (num.log2 : Int) - (den.log2 : Int)
    let below : Bool :=
      if 0 ≤ guess then num < den * Nat.pow 2 guess.toNat else num * Nat.pow 2 (-guess).toNat < den
    let top := if below then guess - 1 else guess
    let q := max (top - 52) (-1074)
    let n := if 0 ≤ q then num else num * Nat.pow 2 (-q).toNat
    let d := if 0 ≤ q then den * Nat.pow 2 q.toNat else den
    let m := n / d
    let r := n % d
    let m := if d < 2 * r ∨ (2 * r = d ∧ m % 2 = 1) then m + 1 else m
    let q' := (q + 1074).toNat
    let bits := if m < Nat.pow 2 52 then m else (q' + 1) * Nat.pow 2 52 + (m - Nat.pow 2 52)
    if infinity.bits.toNat ≤ bits then infinity else ⟨UInt64.ofNat bits⟩

def ofDecimal (digits : Nat) (exponent : Int) : Binary64 :=
  let length : Int := (Nat.toDigits 10 digits).length
  if digits = 0 ∨ exponent + length < -400 then zero
  else if 400 < exponent + length then infinity
  else if 0 ≤ exponent then ofQuotient (digits * Nat.pow 10 exponent.toNat) 1
  else ofQuotient digits (Nat.pow 10 (-exponent).toNat)

def mul (x y : Binary64) : Binary64 :=
  let (a, b) := x.quotient
  let (c, d) := y.quotient
  ofQuotient (a * c) (b * d)

def div (x y : Binary64) : Binary64 :=
  let (a, b) := x.quotient
  let (c, d) := y.quotient
  ofQuotient (a * d) (b * c)

/-! ## The shortest decimal -/

/-- Digits `d` and exponent `e` of the decimal `d * 10 ^ e`. -/
structure Digits where
  digits : Nat
  exponent : Int
  deriving DecidableEq, Repr

/-- The interval that rounds to a magnitude, as `low < value < high` over one denominator. -/
structure Interval where
  low : Nat
  value : Nat
  high : Nat
  den : Nat
  closed : Bool

def interval (x : Binary64) : Interval :=
  let m := x.significand
  let s := x.scale
  let low := if m = Nat.pow 2 52 ∧ s ≠ 0 then 4 * m - 1 else 4 * m - 2
  let closed := m % 2 == 0
  if 1076 ≤ s then
    let k := Nat.pow 2 (s - 1076)
    ⟨low * k, 4 * m * k, (4 * m + 2) * k, 1, closed⟩
  else ⟨low, 4 * m, 4 * m + 2, Nat.pow 2 (1076 - s), closed⟩

def Interval.holds (i : Interval) (num scale : Nat) : Bool :=
  let x := num * i.den
  let l := i.low * scale
  let h := i.high * scale
  if i.closed then l ≤ x && x ≤ h else l < x && x < h

/-- The nearest decimal in the interval with unit `10 ^ e`, if one of the two neighbours lies in it. -/
def Interval.onGrid? (i : Interval) (e : Int) : Option Digits :=
  let unit := if 0 ≤ e then Nat.pow 10 e.toNat else 1
  let scale := if 0 ≤ e then 1 else Nat.pow 10 (-e).toNat
  let below := i.value * scale / (i.den * unit)
  let above := below + 1
  let rest := i.value * scale - below * unit * i.den
  let nearBelow := 2 * rest < unit * i.den || (2 * rest == unit * i.den && below % 2 == 0)
  match i.holds (below * unit) scale && below != 0, i.holds (above * unit) scale with
  | true, true => some ⟨if nearBelow then below else above, e⟩
  | true, false => some ⟨below, e⟩
  | false, true => some ⟨above, e⟩
  | false, false => none

def Interval.decimalPoint (i : Interval) : Int :=
  let guess : Int := ((i.value.log2 : Int) - (i.den.log2 : Int)) * 30103 / 100000
  let reaches (k : Int) : Bool :=
    if 0 ≤ k then i.den * Nat.pow 10 k.toNat ≤ i.value else i.den ≤ i.value * Nat.pow 10 (-k).toNat
  if reaches (guess + 1) then guess + 2
  else if reaches guess then guess + 1
  else if reaches (guess - 1) then guess
  else guess - 1

def stripZeros : Nat → Nat → Int → Digits
  | 0, d, e => ⟨d, e⟩
  | n + 1, d, e => if d % 10 = 0 ∧ d ≠ 0 then stripZeros n (d / 10) (e + 1) else ⟨d, e⟩

/-- The shortest decimal that rounds to a finite magnitude, and of those the nearest. -/
def shortest (x : Binary64) : Digits :=
  if x.isZero then ⟨0, 0⟩
  else
    let i := x.interval
    let point := i.decimalPoint
    match (List.range 17).findSome? fun n => i.onGrid? (point - (n + 1 : Nat)) with
    | some d => stripZeros 17 d.digits d.exponent
    | none => ⟨0, 0⟩

/-- Positional between `1e-5` and `1e16`, with a mark of the fraction or an exponent always. -/
def render (x : Binary64) : String :=
  let s := x.shortest
  let ds := Nat.toDigits 10 s.digits
  let length : Int := ds.length
  let point := length + s.exponent
  let text :=
    if x.isZero then "0.0"
    else if 0 ≤ s.exponent ∧ point ≤ 16 then
      String.ofList (ds ++ List.replicate s.exponent.toNat '0') ++ ".0"
    else if 0 < point ∧ point ≤ 16 then
      String.ofList (ds.take point.toNat) ++ "." ++ String.ofList (ds.drop point.toNat)
    else if -5 < point ∧ point ≤ 0 then
      "0." ++ String.ofList (List.replicate (-point).toNat '0' ++ ds)
    else
      let mantissa := match ds with
        | [d] => String.ofList [d]
        | d :: rest => String.ofList (d :: '.' :: rest)
        | [] => "0"
      let e := point - 1
      mantissa ++ "e" ++ (if 0 ≤ e then "+" else "-") ++ toString e.natAbs
  if x.isNegative then "-" ++ text else text

end Binary64

end ClusterGateway.Decimal
