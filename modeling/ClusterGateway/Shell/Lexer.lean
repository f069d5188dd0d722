import ClusterGateway.Shell.Script

/-!
# Words and operators of a shell script

Quotes, backslashes and what a dollar sign starts are recognised here; what follows `#` at the
start of a word is a comment.
-/

namespace ClusterGateway.Shell

inductive Token where
  | word (w : Word)
  | op (s : String)
  | redirect (r : Redirect)
  deriving DecidableEq, Repr

namespace Token

def isBlank (c : Char) : Bool := c == ' ' || c == '\t'

def isNameStart (c : Char) : Bool := c.isAlpha || c == '_'

def isNameChar (c : Char) : Bool := c.isAlphanum || c == '_'

def endsWord (c : Char) : Bool :=
  isBlank c || c == '\n' || c == ';' || c == '&' || c == '|' || c == '<' || c == '>' || c == '(' || c == ')'

def isSpecial (c : Char) : Bool :=
  c == '@' || c == '*' || c == '#' || c == '?' || c == '$' || c == '!' || c == '-'

def backquote : Char := '\x60'

def splitAt? (close : List Char) : List Char → List Char → Option (List Char × List Char)
  | seen, [] => if close.isEmpty then some (seen.reverse, []) else none
  | seen, c :: rest =>
    if close.isPrefixOf (c :: rest) then some (seen.reverse, (c :: rest).drop close.length)
    else splitAt? close (c :: seen) rest

/-- What stands before the parenthesis that closes an open one, where those within quotes do
not count, and what after it. -/
def enclosed? (depth : Nat) (quote : Option Char) (seen : List Char) :
    List Char → Option (List Char × List Char)
  | [] => none
  | c :: rest =>
    match quote with
    | some q => enclosed? depth (if c = q then none else some q) (c :: seen) rest
    | none =>
      if c = '"' ∨ c = '\x27' then enclosed? depth (some c) (c :: seen) rest
      else if c = '(' then enclosed? (depth + 1) none (c :: seen) rest
      else if c = ')' then
        if depth = 0 then some (seen.reverse, rest) else enclosed? (depth - 1) none (c :: seen) rest
      else enclosed? depth none (c :: seen) rest

/-- The script between backquotes, where a backslash keeps a special character from its
meaning. -/
def backquoted? (seen : List Char) : List Char → Option (List Char × List Char)
  | [] => none
  | ['\\'] => none
  | '\\' :: c :: rest =>
    if c = backquote ∨ c = '\\' ∨ c = '$' then backquoted? (c :: seen) rest
    else backquoted? (c :: '\\' :: seen) rest
  | c :: rest => if c = backquote then some (seen.reverse, rest) else backquoted? (c :: seen) rest

def braced (body : List Char) (quoted : Bool) : Part :=
  let name := body.takeWhile isNameChar
  match body.drop name.length with
  | ':' :: '-' :: other => .withDefault (String.ofList name) true (String.ofList other) quoted
  | '-' :: other => .withDefault (String.ofList name) false (String.ofList other) quoted
  | _ =>
    match body with
    | '#' :: c :: rest => .length (String.ofList (c :: rest))
    | _ => .parameter (String.ofList body) quoted

def dollar? (quoted : Bool) : List Char → Option (Part × List Char)
  | '(' :: '(' :: rest =>
    match enclosed? 0 none [] rest with
    | some (e, ')' :: rest) => some (.arithmetic (String.ofList e), rest)
    | _ => (enclosed? 0 none [] ('(' :: rest)).map fun (s, rest) => (.output (String.ofList s) quoted, rest)
  | '(' :: rest =>
    (enclosed? 0 none [] rest).map fun (s, rest) => (.output (String.ofList s) quoted, rest)
  | '\x7b' :: rest => (splitAt? ['\x7d'] [] rest).map fun (b, rest) => (braced b quoted, rest)
  | c :: rest =>
    if isNameStart c then
      let name := c :: rest.takeWhile isNameChar
      some (.parameter (String.ofList name) quoted, rest.dropWhile isNameChar)
    else if c.isDigit || isSpecial c then some (.parameter (String.singleton c) quoted, rest)
    else some (.text "$" quoted, c :: rest)
  | [] => some (.text "$" quoted, [])

def expansion? (quoted : Bool) (c : Char) (rest : List Char) : Option (Option (Part × List Char)) :=
  if c = '$' then some (dollar? quoted rest)
  else if c = backquote then
    some ((backquoted? [] rest).map fun (s, rest) => (.output (String.ofList s) quoted, rest))
  else none

def isEscapable (c : Char) : Bool := c == '$' || c == '\\' || c == backquote

/-- A text whose parameters and scripts count and whose quotes do not. -/
def template? : Nat → List Part → List Char → Option Word
  | 0, _, _ => none
  | _, parts, [] => some parts.reverse
  | fuel + 1, parts, '\\' :: c :: rest =>
    if c = '\n' then template? fuel parts rest
    else if isEscapable c then template? fuel (.text (String.singleton c) true :: parts) rest
    else template? fuel (.text (String.ofList ['\\', c]) true :: parts) rest
  | fuel + 1, parts, c :: rest =>
    match expansion? true c rest with
    | some r => r.bind fun (p, rest) => template? fuel (p :: parts) rest
    | none => template? fuel (.text (String.singleton c) true :: parts) rest

/-- A word up to its end, where `double` tells whether a double quote is open. -/
def word? : Nat → Bool → List Part → List Char → Option (Word × List Char)
  | 0, _, _, _ => none
  | fuel + 1, true, parts, cs =>
    match cs with
    | [] => none
    | '"' :: rest => word? fuel false parts rest
    | '\\' :: c :: rest =>
      if c = '\n' then word? fuel true parts rest
      else if isEscapable c || c == '"' then word? fuel true (.text (String.singleton c) true :: parts) rest
      else word? fuel true (.text (String.ofList ['\\', c]) true :: parts) rest
    | c :: rest =>
      match expansion? true c rest with
      | some r => r.bind fun (p, rest) => word? fuel true (p :: parts) rest
      | none => word? fuel true (.text (String.singleton c) true :: parts) rest
  | fuel + 1, false, parts, cs =>
    match cs with
    | [] => some (parts.reverse, [])
    | '"' :: rest => word? fuel true (.text "" true :: parts) rest
    | '\x27' :: rest =>
      (splitAt? ['\x27'] [] rest).bind fun (s, rest) =>
        word? fuel false (.text (String.ofList s) true :: parts) rest
    | '\\' :: c :: rest =>
      if c = '\n' then word? fuel false parts rest
      else word? fuel false (.text (String.singleton c) true :: parts) rest
    | c :: rest =>
      match expansion? false c rest with
      | some r => r.bind fun (p, rest) => word? fuel false (p :: parts) rest
      | none =>
        if endsWord c then some (parts.reverse, c :: rest)
        else word? fuel false (.text (String.singleton c) false :: parts) rest

def joined : Word → Word
  | [] => []
  | .text s q :: rest =>
    match joined rest with
    | .text t r :: rest => if q = r then .text (s ++ t) q :: rest else .text s q :: .text t r :: rest
    | rest => .text s q :: rest
  | p :: rest => p :: joined rest

def plainWord? (fuel : Nat) (cs : List Char) : Option (String × Bool × List Char) :=
  match word? fuel false [] (cs.dropWhile isBlank) with
  | some (w, rest) =>
    match joined w with
    | [.text s q] => some (s, q, rest)
    | [.text "" true, .text s _] => some (s, true, rest)
    | _ => none
  | none => none

def channel? (s : String) : Option Channel :=
  if s == "1" then some .out else if s == "2" then some .err else none

def outputRedirect? (fuel : Nat) (source : Channel) (cs : List Char) : Option (Redirect × List Char) :=
  let cs := match cs with
    | '>' :: rest => rest
    | cs => cs
  match cs with
  | '&' :: rest => do
    let (t, _, rest) ← plainWord? fuel rest
    return (.join source (← channel? t), rest)
  | cs => do
    let (t, _, rest) ← plainWord? fuel cs
    if t == "/dev/null" then return (.discard source, rest)
    else if t == "/dev/stdout" then return (.join source .out, rest)
    else if t == "/dev/stderr" then return (.join source .err, rest)
    else none

def document (delimiter : String) (strip : Bool) : List (List Char) → List (List Char) × List (List Char)
  | [] => ([], [])
  | line :: rest =>
    let line := if strip then line.dropWhile (· = '\t') else line
    if String.ofList line = delimiter then ([], rest)
    else
      let (content, after) := document delimiter strip rest
      (line :: content, after)

def lines (cs : List Char) : List (List Char) :=
  match cs with
  | [] => []
  | cs => cs.splitOn '\n'

/-- A document within the script: it starts on the next line, and the rest of this line goes
on as if it were not there. -/
def documentRedirect? (fuel : Nat) (cs : List Char) : Option (Redirect × List Char) := do
  let (strip, cs) := match cs with
    | '-' :: rest => (true, rest)
    | cs => (false, cs)
  let (delimiter, quoted, rest) ← plainWord? fuel cs
  let (content, after) := document delimiter strip (lines ((rest.dropWhile (· ≠ '\n')).drop 1))
  let text := content.flatMap (· ++ ['\n'])
  let word ← if quoted then some [.text (String.ofList text) true] else template? (text.length + 1) [] text
  let after := after.flatMap ('\n' :: ·)
  return (.document word, rest.takeWhile (· ≠ '\n') ++ after)

def inputRedirect? (fuel : Nat) (cs : List Char) : Option (Redirect × List Char) := do
  let (path, _, rest) ← plainWord? fuel cs
  return (.file path, rest)

def all? (fuel : Nat) (acc : List Token) (cs : List Char) : Option (List Token) :=
  match fuel with
  | 0 => none
  | fuel + 1 =>
    let redirect (r : Option (Redirect × List Char)) :=
      r.bind fun (r, rest) => all? fuel (.redirect r :: acc) rest
    match cs with
    | [] => some acc.reverse
    | '\\' :: '\n' :: rest => all? fuel acc rest
    | '#' :: rest => all? fuel acc (rest.dropWhile (· ≠ '\n'))
    | ';' :: ';' :: rest => all? fuel (.op ";;" :: acc) rest
    | '&' :: '&' :: rest => all? fuel (.op "&&" :: acc) rest
    | '|' :: '|' :: rest => all? fuel (.op "||" :: acc) rest
    | '1' :: '>' :: rest => redirect (outputRedirect? cs.length.succ .out rest)
    | '2' :: '>' :: rest => redirect (outputRedirect? cs.length.succ .err rest)
    | '>' :: rest => redirect (outputRedirect? cs.length.succ .out rest)
    | '<' :: '<' :: rest => redirect (documentRedirect? cs.length.succ rest)
    | '<' :: rest => redirect (inputRedirect? cs.length.succ rest)
    | c :: rest =>
      if isBlank c then all? fuel acc rest
      else if c = '\n' then all? fuel (.op ";" :: acc) rest
      else if endsWord c then all? fuel (.op (String.singleton c) :: acc) rest
      else (word? cs.length.succ false [] cs).bind fun (w, rest) =>
        all? fuel (.word (joined w) :: acc) rest

end Token

def tokens? (script : String) : Option (List Token) :=
  Token.all? (script.length + 1) [] script.toList

end ClusterGateway.Shell
