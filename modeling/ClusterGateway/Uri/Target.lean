import ClusterGateway.Uri.Percent

/-!
# Request targets

A target is a path with an optional query, or an absolute address of which only that part is
looked at; a fragment is dropped. Characters that a target may not hold are refused, with a few
more allowed in a path than there should be.
-/

namespace ClusterGateway.Uri

structure Target where
  path : List Char
  query : Option (List Char)
  deriving DecidableEq, Repr

inductive TargetError where
  | empty
  | tooLong
  | invalidChar
  | invalidAuthority
  | invalidFormat
  | schemeTooLong
  deriving DecidableEq, Repr

def TargetError.message : TargetError → String
  | empty => "empty string"
  | tooLong => "uri too long"
  | invalidChar => "invalid uri character"
  | invalidAuthority => "invalid authority"
  | invalidFormat => "invalid format"
  | schemeTooLong => "scheme too long"

namespace Target

def maxLength : Nat := 65534

def isPathChar (c : Char) : Bool :=
  let n := c.toNat
  n == 0x21 || n == 0x22 || (0x24 ≤ n && n ≤ 0x3B) || n == 0x3D || (0x40 ≤ n && n ≤ 0x5F) ||
    (0x61 ≤ n && n ≤ 0x7E) || 0x7F ≤ n

def isQueryChar (c : Char) : Bool :=
  let n := c.toNat
  n == 0x21 || (0x24 ≤ n && n ≤ 0x3B) || n == 0x3D || 0x3F ≤ n

def ofPath (s : List Char) : Except TargetError Target :=
  let (s, _) := splitFirst '#' s
  let (path, query) := splitFirst '?' s
  if path.all isPathChar && (query.getD []).all isQueryChar then .ok ⟨path, query⟩
  else .error .invalidChar

/-! ## Authorities -/

structure Scan where
  colons : Nat
  opened : Bool
  closed : Bool
  percent : Bool
  /-- Whether the character before was an at sign. -/
  afterAt : Bool

def isAuthorityChar (c : Char) : Bool :=
  c.isAlphanum || "!$&'()*+,-.;=_~".toList.contains c

def scanStep (s : Scan) (c : Char) : Except TargetError Scan :=
  let s' := { s with afterAt := false }
  if c = ':' then
    if 8 ≤ s.colons then .error .invalidAuthority else .ok { s' with colons := s.colons + 1 }
  else if c = '[' then
    if s.percent || s.opened then .error .invalidAuthority else .ok { s' with opened := true }
  else if c = ']' then
    if !s.opened || s.closed then .error .invalidAuthority
    else .ok { s' with closed := true, colons := 0, percent := false }
  else if c = '@' then .ok { s' with colons := 0, percent := false, afterAt := true }
  else if c = '%' then .ok { s' with percent := true }
  else if isAuthorityChar c then .ok s'
  else .error .invalidChar

def endsAuthority (c : Char) : Bool := c == '/' || c == '?' || c == '#'

def authority (s : List Char) : Except TargetError (List Char × List Char) := do
  let host := s.takeWhile (!endsAuthority ·)
  let scan ← host.foldlM scanStep ⟨0, false, false, false, false⟩
  if scan.opened != scan.closed || 1 < scan.colons || scan.afterAt || scan.percent then
    .error .invalidAuthority
  return (host, s.dropWhile (!endsAuthority ·))

def isSchemeChar (c : Char) : Bool :=
  c.isAlphanum || c == '+' || c == '-' || c == '.' || c == '~'

def afterScheme (s : List Char) : Except TargetError (Option (List Char)) :=
  let scheme := s.takeWhile isSchemeChar
  match s.drop scheme.length with
  | ':' :: '/' :: '/' :: rest =>
    if s.length ≤ 3 then .ok none
    else if 64 < scheme.length then .error .schemeTooLong
    else .ok (some rest)
  | _ => .ok none

def parse (text : String) : Except TargetError Target :=
  if maxLength < text.utf8ByteSize then .error .tooLong
  else match text.toList with
  | [] => .error .empty
  | ['*'] => .ok ⟨['*'], none⟩
  | '/' :: rest => ofPath ('/' :: rest)
  | s => do
    match ← (if s.length = 1 then .ok none else afterScheme s) with
    | none =>
      let (_, rest) ← authority s
      if rest.isEmpty then return ⟨[], none⟩
      else .error (if s.length = 1 then .invalidChar else .invalidFormat)
    | some s =>
      let (host, rest) ← authority s
      if host.isEmpty then .error .invalidFormat
      let target ← ofPath rest
      return if target.path.isEmpty then { target with path := ['/'] } else target

end Target

end ClusterGateway.Uri
