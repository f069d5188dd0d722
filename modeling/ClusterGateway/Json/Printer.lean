import ClusterGateway.Json.Basic

/-!
# Writing JSON

The compact form: no blanks, fields in the order of their names, and escapes only where a
string needs them.
-/

namespace ClusterGateway.Json

def hexDigit (n : Nat) : Char :=
  Char.ofNat (if n < 10 then 0x30 + n else 0x57 + n)

def escapeChar (c : Char) : List Char :=
  if c = '"' then ['\\', '"']
  else if c = '\\' then ['\\', '\\']
  else if c = '\n' then ['\\', 'n']
  else if c = '\r' then ['\\', 'r']
  else if c = '\t' then ['\\', 't']
  else if c = '\x08' then ['\\', 'b']
  else if c = '\x0c' then ['\\', 'f']
  else if c.toNat < 0x20 then ['\\', 'u', '0', '0', hexDigit (c.toNat / 16), hexDigit (c.toNat % 16)]
  else [c]

def needsEscape (c : Char) : Bool :=
  c == '"' || c == '\\' || c.toNat < 0x20

def quote (s : String) : String :=
  if s.any needsEscape then String.ofList ('"' :: s.toList.flatMap escapeChar ++ ['"'])
  else "\"" ++ s ++ "\""

def Number.render : Number → String
  | .int n => toString n
  | .real x => x.render

mutual

def renderTo (out : String) : Json → String
  | null => out ++ "null"
  | bool true => out ++ "true"
  | bool false => out ++ "false"
  | num n => out ++ n.render
  | str s => out ++ quote s
  | arr items => renderItems (out ++ "[") true items ++ "]"
  | obj fields => renderFields (out ++ "\x7b") true fields ++ "\x7d"

def renderItems (out : String) (first : Bool) : List Json → String
  | [] => out
  | v :: rest => renderItems (renderTo (if first then out else out ++ ",") v) false rest

def renderFields (out : String) (first : Bool) : List (String × Json) → String
  | [] => out
  | (k, v) :: rest =>
    renderFields (renderTo ((if first then out else out ++ ",") ++ quote k ++ ":") v) false rest

end

def render (v : Json) : String :=
  renderTo "" v

end ClusterGateway.Json
