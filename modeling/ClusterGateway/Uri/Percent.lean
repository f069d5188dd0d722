import ClusterGateway.Json.Reader
import ClusterGateway.Text.Utf8

/-!
# Percent-encoded text

A percent sign with two hexadecimal digits stands for a byte; any other percent sign stands for
itself. A form writes a blank as a plus sign, and pairs a name with what follows its first
equals sign.
-/

namespace ClusterGateway.Uri

def hexValue? (c : Char) : Option Nat := Json.Reader.hexValue? c

def percentDecode : List Char → List UInt8
  | [] => []
  | '%' :: a :: b :: rest =>
    match hexValue? a, hexValue? b with
    | some x, some y => UInt8.ofNat (x * 16 + y) :: percentDecode rest
    | _, _ => 0x25 :: percentDecode (a :: b :: rest)
  | c :: rest => Text.Utf8.encode (String.singleton c) ++ percentDecode rest

def segment? (s : List Char) : Option String :=
  Text.Utf8.decode? (percentDecode s)

def formText (s : List Char) : String :=
  Text.Utf8.decodeLossy (percentDecode (s.map fun c => if c = '+' then ' ' else c))

def splitFirst (c : Char) (s : List Char) : List Char × Option (List Char) :=
  match s.dropWhile (· ≠ c) with
  | [] => (s, none)
  | _ :: rest => (s.takeWhile (· ≠ c), some rest)

def splitAll (c : Char) : List Char → List (List Char)
  | [] => [[]]
  | d :: rest =>
    if d = c then [] :: splitAll c rest
    else match splitAll c rest with
      | [] => [[d]]
      | part :: parts => (d :: part) :: parts

def formPairs (query : List Char) : List (String × String) :=
  ((splitAll '&' query).filter (!·.isEmpty)).map fun part =>
    let (name, value) := splitFirst '=' part
    (formText name, formText (value.getD []))

end ClusterGateway.Uri
