/-!
# Base64 for URLs

Six bits a character, without padding. A text is read only in the form in which it would be
written: the bits left over in its last character have to be zero.
-/

namespace ClusterGateway.Base64Url

def alphabet : List Char :=
  "ABCDEFGHIJKLMNOPQRSTUVWXYZabcdefghijklmnopqrstuvwxyz0123456789-_".toList

def char (n : Nat) : Char := alphabet.getD (n % 64) 'A'

def value? (c : Char) : Option Nat :=
  let n := c.toNat
  if 65 ≤ n ∧ n ≤ 90 then some (n - 65)
  else if 97 ≤ n ∧ n ≤ 122 then some (n - 71)
  else if 48 ≤ n ∧ n ≤ 57 then some (n + 4)
  else if c = '-' then some 62
  else if c = '_' then some 63
  else none

def encode : List UInt8 → List Char
  | a :: b :: c :: rest =>
    let n := a.toNat * 65536 + b.toNat * 256 + c.toNat
    char (n / 262144) :: char (n / 4096) :: char (n / 64) :: char n :: encode rest
  | [a, b] =>
    let n := a.toNat * 1024 + b.toNat * 4
    [char (n / 4096), char (n / 64), char n]
  | [a] =>
    let n := a.toNat * 16
    [char (n / 64), char n]
  | [] => []

def byte (n : Nat) : UInt8 := UInt8.ofNat n

def decode? : List Char → Option (List UInt8)
  | a :: b :: c :: d :: rest => do
    let n := (← value? a) * 262144 + (← value? b) * 4096 + (← value? c) * 64 + (← value? d)
    let bytes ← decode? rest
    return byte (n / 65536) :: byte (n / 256) :: byte n :: bytes
  | [a, b, c] => do
    let n := (← value? a) * 4096 + (← value? b) * 64 + (← value? c)
    if n % 4 = 0 then some [byte (n / 1024), byte (n / 4)] else none
  | [a, b] => do
    let n := (← value? a) * 64 + (← value? b)
    if n % 16 = 0 then some [byte (n / 16)] else none
  | [_] => none
  | [] => some []

end ClusterGateway.Base64Url
