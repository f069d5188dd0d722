/-!
# Reading UTF-8

Bytes are read one at a time. A run of bytes that cannot be completed to a character is one
flaw, as long as the longest beginning of a character that it holds; the byte that broke it is
read again as the start of the next character.
-/

namespace ClusterGateway.Text.Utf8

inductive Piece where
  | char (c : Char)
  /-- Bytes that no further byte could complete. -/
  | flaw (length : Nat)
  /-- A character that the end of the input cuts short. -/
  | cut (length : Nat)
  deriving DecidableEq, Repr

/-- A character of which `seen` bytes were read and `missing` are still due. -/
structure Partial where
  seen : Nat
  missing : Nat
  code : Nat
  low : Nat
  high : Nat

structure Reader where
  pieces : List Piece
  open? : Option Partial

def Reader.empty : Reader := ⟨[], none⟩

def Reader.start (pieces : List Piece) (b : Nat) : Reader :=
  if b < 0x80 then ⟨.char (Char.ofNat b) :: pieces, none⟩
  else if 0xC2 ≤ b ∧ b ≤ 0xDF then ⟨pieces, some ⟨1, 1, b - 0xC0, 0x80, 0xBF⟩⟩
  else if b = 0xE0 then ⟨pieces, some ⟨1, 2, 0, 0xA0, 0xBF⟩⟩
  else if b = 0xED then ⟨pieces, some ⟨1, 2, 13, 0x80, 0x9F⟩⟩
  else if 0xE1 ≤ b ∧ b ≤ 0xEF then ⟨pieces, some ⟨1, 2, b - 0xE0, 0x80, 0xBF⟩⟩
  else if b = 0xF0 then ⟨pieces, some ⟨1, 3, 0, 0x90, 0xBF⟩⟩
  else if b = 0xF4 then ⟨pieces, some ⟨1, 3, 4, 0x80, 0x8F⟩⟩
  else if 0xF1 ≤ b ∧ b ≤ 0xF3 then ⟨pieces, some ⟨1, 3, b - 0xF0, 0x80, 0xBF⟩⟩
  else ⟨.flaw 1 :: pieces, none⟩

def Reader.step (r : Reader) (byte : UInt8) : Reader :=
  let b := byte.toNat
  match r.open? with
  | none => .start r.pieces b
  | some p =>
    if p.low ≤ b ∧ b ≤ p.high then
      let code := p.code * 64 + (b - 0x80)
      if p.missing ≤ 1 then ⟨.char (Char.ofNat code) :: r.pieces, none⟩
      else ⟨r.pieces, some ⟨p.seen + 1, p.missing - 1, code, 0x80, 0xBF⟩⟩
    else .start (.flaw p.seen :: r.pieces) b

def Reader.finish (r : Reader) : List Piece :=
  match r.open? with
  | none => r.pieces.reverse
  | some p => (.cut p.seen :: r.pieces).reverse

def pieces (bytes : List UInt8) : List Piece :=
  (bytes.foldl Reader.step .empty).finish

structure Flaw where
  index : Nat
  /-- `none` when the input ended inside a character. -/
  length : Option Nat
  deriving DecidableEq, Repr

def firstFlaw? (ps : List Piece) : Option Flaw :=
  go 0 ps
where
  go (index : Nat) : List Piece → Option Flaw
    | [] => none
    | .char c :: ps => go (index + c.utf8Size) ps
    | .flaw n :: _ => some ⟨index, some n⟩
    | .cut _ :: _ => some ⟨index, none⟩

def Flaw.message (f : Flaw) : String :=
  match f.length with
  | some n => s!"invalid utf-8 sequence of {n} bytes from index {f.index}"
  | none => s!"incomplete utf-8 byte sequence from index {f.index}"

def Piece.replacement : Piece → Char
  | .char c => c
  | _ => Char.ofNat 0xFFFD

def decodeLossy (bytes : List UInt8) : String :=
  String.ofList ((pieces bytes).map Piece.replacement)

def decode (bytes : List UInt8) : Except Flaw String :=
  let ps := pieces bytes
  match firstFlaw? ps with
  | some f => .error f
  | none => .ok (String.ofList (ps.map Piece.replacement))

def decode? (bytes : List UInt8) : Option String :=
  (decode bytes).toOption

def encode (s : String) : List UInt8 :=
  s.toUTF8.toList

end ClusterGateway.Text.Utf8
