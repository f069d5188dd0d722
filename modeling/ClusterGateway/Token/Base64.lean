import ClusterGateway.Token.Base64Url

/-!
# Padded Base64

The alphabet with a plus sign and a slash, filled up to a multiple of four characters.
-/

namespace ClusterGateway.Base64

def ofUrl (c : Char) : Char :=
  if c = '-' then '+' else if c = '_' then '/' else c

def toUrl? (c : Char) : Option Char :=
  if c = '+' then some '-' else if c = '/' then some '_'
  else if c = '-' ∨ c = '_' then none
  else some c

def encode (bytes : List UInt8) : List Char :=
  let cs := (Base64Url.encode bytes).map ofUrl
  cs ++ List.replicate ((4 - cs.length % 4) % 4) '='

def decode? (cs : List Char) : Option (List UInt8) :=
  let body := (cs.reverse.dropWhile (· == '=')).reverse
  if cs.length % 4 = 0 ∧ cs.length ≤ body.length + 2 then
    (body.mapM toUrl?).bind Base64Url.decode?
  else none

end ClusterGateway.Base64
