/-!
# SHA-256 and HMAC

The digest works on 32-bit words that wrap around. A message is followed by a set bit, zeros,
and its length in bits, up to a whole number of blocks of 64 bytes. A key longer than a block is
replaced by its digest, then padded with zeros.
-/

namespace ClusterGateway.Sha256

def initial : List UInt32 :=
  [0x6a09e667, 0xbb67ae85, 0x3c6ef372, 0xa54ff53a, 0x510e527f, 0x9b05688c, 0x1f83d9ab, 0x5be0cd19]

def roundConstants : List UInt32 :=
  [0x428a2f98, 0x71374491, 0xb5c0fbcf, 0xe9b5dba5, 0x3956c25b, 0x59f111f1, 0x923f82a4, 0xab1c5ed5,
    0xd807aa98, 0x12835b01, 0x243185be, 0x550c7dc3, 0x72be5d74, 0x80deb1fe, 0x9bdc06a7, 0xc19bf174,
    0xe49b69c1, 0xefbe4786, 0x0fc19dc6, 0x240ca1cc, 0x2de92c6f, 0x4a7484aa, 0x5cb0a9dc, 0x76f988da,
    0x983e5152, 0xa831c66d, 0xb00327c8, 0xbf597fc7, 0xc6e00bf3, 0xd5a79147, 0x06ca6351, 0x14292967,
    0x27b70a85, 0x2e1b2138, 0x4d2c6dfc, 0x53380d13, 0x650a7354, 0x766a0abb, 0x81c2c92e, 0x92722c85,
    0xa2bfe8a1, 0xa81a664b, 0xc24b8b70, 0xc76c51a3, 0xd192e819, 0xd6990624, 0xf40e3585, 0x106aa070,
    0x19a4c116, 0x1e376c08, 0x2748774c, 0x34b0bcb5, 0x391c0cb3, 0x4ed8aa4a, 0x5b9cca4f, 0x682e6ff3,
    0x748f82ee, 0x78a5636f, 0x84c87814, 0x8cc70208, 0x90befffa, 0xa4506ceb, 0xbef9a3f7, 0xc67178f2]

def rotate (x : UInt32) (n : UInt32) : UInt32 := (x >>> n) ||| (x <<< (32 - n))

def blockSize : Nat := 64

def bigEndian (bytes : List UInt8) : UInt32 :=
  bytes.foldl (fun n b => (n <<< 8) ||| b.toUInt32) 0

def bytesOf (x : UInt32) : List UInt8 :=
  [(x >>> 24).toUInt8, (x >>> 16).toUInt8, (x >>> 8).toUInt8, x.toUInt8]

def words : List UInt8 → List UInt32
  | a :: b :: c :: d :: rest => bigEndian [a, b, c, d] :: words rest
  | _ => []

def padding (length : Nat) : List UInt8 :=
  let zeros := (119 - length % blockSize) % blockSize
  let bits := length * 8
  0x80 :: List.replicate zeros 0 ++
    (List.range 8).reverse.map fun i => UInt8.ofNat (bits / Nat.pow 256 i)

/-- Sixty-four words from sixteen, kept latest first. -/
def schedule (block : List UInt32) : List UInt32 :=
  (extend 48 block.reverse).reverse
where
  extend : Nat → List UInt32 → List UInt32
    | 0, w => w
    | n + 1, w =>
      let x := w.getD 14 0
      let y := w.getD 1 0
      let s0 := rotate x 7 ^^^ rotate x 18 ^^^ (x >>> 3)
      let s1 := rotate y 17 ^^^ rotate y 19 ^^^ (y >>> 10)
      extend n ((w.getD 15 0 + s0 + w.getD 6 0 + s1) :: w)

structure State where
  a : UInt32
  b : UInt32
  c : UInt32
  d : UInt32
  e : UInt32
  f : UInt32
  g : UInt32
  h : UInt32

def State.ofList : List UInt32 → State
  | [a, b, c, d, e, f, g, h] => ⟨a, b, c, d, e, f, g, h⟩
  | _ => ⟨0, 0, 0, 0, 0, 0, 0, 0⟩

def State.toList (s : State) : List UInt32 := [s.a, s.b, s.c, s.d, s.e, s.f, s.g, s.h]

def State.round (s : State) (kw : UInt32 × UInt32) : State :=
  let s1 := rotate s.e 6 ^^^ rotate s.e 11 ^^^ rotate s.e 25
  let ch := (s.e &&& s.f) ^^^ (~~~s.e &&& s.g)
  let t1 := s.h + s1 + ch + kw.1 + kw.2
  let s0 := rotate s.a 2 ^^^ rotate s.a 13 ^^^ rotate s.a 22
  let maj := (s.a &&& s.b) ^^^ (s.a &&& s.c) ^^^ (s.b &&& s.c)
  ⟨t1 + (s0 + maj), s.a, s.b, s.c, s.d + t1, s.e, s.f, s.g⟩

def compress (hash : List UInt32) (block : List UInt32) : List UInt32 :=
  let s := (roundConstants.zip (schedule block)).foldl State.round (.ofList hash)
  hash.zipWith (· + ·) s.toList

def blocks : Nat → List UInt32 → List (List UInt32)
  | 0, _ => []
  | n + 1, ws => ws.take 16 :: blocks n (ws.drop 16)

def digest (message : List UInt8) : List UInt8 :=
  let ws := words (message ++ padding message.length)
  ((blocks (ws.length / 16) ws).foldl compress initial).flatMap bytesOf

/-! ## Keyed digests -/

def blockKey (key : List UInt8) : List UInt8 :=
  let key := if blockSize < key.length then digest key else key
  key ++ List.replicate (blockSize - key.length) 0

def hmac (key message : List UInt8) : List UInt8 :=
  let k := blockKey key
  digest (k.map (· ^^^ 0x5c) ++ digest (k.map (· ^^^ 0x36) ++ message))

end ClusterGateway.Sha256
