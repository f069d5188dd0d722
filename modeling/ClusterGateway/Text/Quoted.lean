import ClusterGateway.Text.Unprintable

/-!
# Quoted text

A text between double quotes, in which a quote, a backslash and the usual controls are escaped
with a backslash and whatever has no picture of its own is given by its number.
-/

namespace ClusterGateway.Text

def hexText (n : Nat) : List Char :=
  Nat.toDigits 16 n

def quoteChar (c : Char) : List Char :=
  if c = '"' then ['\\', '"']
  else if c = '\\' then ['\\', '\\']
  else if c = '\n' then ['\\', 'n']
  else if c = '\r' then ['\\', 'r']
  else if c = '\t' then ['\\', 't']
  else if c = '\x00' then ['\\', '0']
  else if c.toNat < 0x20 ∨ c.toNat = 0x7F ∨ isUnprintable c then
    ['\\', 'u', '\x7b'] ++ hexText c.toNat ++ ['\x7d']
  else [c]

def quoted (s : String) : String :=
  String.ofList ('"' :: s.toList.flatMap quoteChar ++ ['"'])

/-- The quoted form of a path, in which an apostrophe is escaped too. -/
def quotedPath (s : String) : String :=
  String.ofList ('"' :: s.toList.flatMap (fun c => if c = '\x27' then ['\\', c] else quoteChar c) ++ ['"'])

end ClusterGateway.Text
