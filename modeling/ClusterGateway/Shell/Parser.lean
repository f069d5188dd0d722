import ClusterGateway.Shell.Lexer

/-!
# From words to a script

Reserved words count only where a command may start, and only unquoted.
-/

namespace ClusterGateway.Shell.Script

abbrev Parsed := Script × List Token

def reserved : List String :=
  ["if", "then", "elif", "else", "fi", "while", "until", "do", "done", "for", "case", "esac", "\x7b", "\x7d", "!"]

def plain? : Token → Option String
  | .word [.text s false] => some s
  | _ => none

def closes (t : Token) : Bool :=
  match t with
  | .op s => s == ")" || s == ";;"
  | t => match plain? t with
    | some s => ["then", "elif", "else", "fi", "do", "done", "esac", "\x7d"].contains s
    | none => false

def skipSeparators : List Token → List Token
  | .op ";" :: rest => skipSeparators rest
  | ts => ts

def expect? (s : String) : List Token → Option (List Token)
  | t :: rest => if plain? t = some s then some rest else none
  | [] => none

def assignment? : Token → Option (String × Word)
  | .word (.text s false :: rest) =>
    let name := s.toList.takeWhile Token.isNameChar
    match s.toList.drop name.length, name.head? with
    | '=' :: value, some c =>
      if Token.isNameStart c then
        some (String.ofList name, if value.isEmpty then rest else .text (String.ofList value) false :: rest)
      else none
    | _, _ => none
  | _ => none

def takeSimple : List (String × Word) → List Word → List Redirect → List Token → Option Parsed
  | as, ws, rs, .redirect r :: rest => takeSimple as ws (r :: rs) rest
  | as, ws, rs, .word w :: rest =>
    match ws, assignment? (.word w) with
    | [], some a => takeSimple (a :: as) ws rs rest
    | _, _ => takeSimple as (w :: ws) rs rest
  | as, ws, rs, ts =>
    if as.isEmpty && ws.isEmpty && rs.isEmpty then none
    else some (.simple as.reverse ws.reverse rs.reverse, ts)

def takeWords : List Token → List Word × List Token
  | .word w :: rest => let (ws, rest) := takeWords rest; (w :: ws, rest)
  | ts => ([], ts)

def patterns? : List Token → Option (List Word × List Token)
  | .word w :: .op ")" :: rest => some ([w], rest)
  | .word w :: .op "|" :: rest => (patterns? rest).map fun (ws, rest) => (w :: ws, rest)
  | _ => none

def takeRedirects : List Redirect → List Token → List Redirect × List Token
  | rs, .redirect r :: rest => takeRedirects (r :: rs) rest
  | rs, ts => (rs.reverse, ts)

def withRedirects (p : Parsed) : Parsed :=
  match takeRedirects [] p.2 with
  | ([], ts) => (p.1, ts)
  | (rs, ts) => (.redirected p.1 rs, ts)

mutual

def list? (fuel : Nat) (ts : List Token) : Option Parsed :=
  match fuel with
  | 0 => none
  | fuel + 1 =>
    match skipSeparators ts with
    | [] => some (.skip, [])
    | t :: rest =>
      if closes t then some (.skip, t :: rest)
      else do
        let (a, rest) ← chain? fuel (t :: rest)
        match rest with
        | .op ";" :: rest =>
          let (b, rest) ← list? fuel rest
          return (.sequence a b, rest)
        | rest => return (a, rest)

def chain? (fuel : Nat) (ts : List Token) : Option Parsed :=
  match fuel with
  | 0 => none
  | fuel + 1 => do
    let (a, rest) ← pipeline? fuel ts
    chainRest? fuel a rest

def chainRest? (fuel : Nat) (a : Script) (ts : List Token) : Option Parsed :=
  match fuel with
  | 0 => none
  | fuel + 1 =>
    match ts with
    | .op "&&" :: rest => do
      let (b, rest) ← pipeline? fuel (skipSeparators rest)
      chainRest? fuel (.both a b) rest
    | .op "||" :: rest => do
      let (b, rest) ← pipeline? fuel (skipSeparators rest)
      chainRest? fuel (.either a b) rest
    | rest => some (a, rest)

def pipeline? (fuel : Nat) (ts : List Token) : Option Parsed :=
  match fuel with
  | 0 => none
  | fuel + 1 =>
    match expect? "!" ts with
    | some rest => (pipeline? fuel rest).map fun (a, rest) => (.negate a, rest)
    | none => do
      let (a, rest) ← command? fuel ts
      match rest with
      | .op "|" :: rest =>
        let (b, rest) ← pipeline? fuel (skipSeparators rest)
        return (.pipe a b, rest)
      | rest => return (a, rest)

def command? (fuel : Nat) (ts : List Token) : Option Parsed :=
  match fuel with
  | 0 => none
  | fuel + 1 =>
    match ts with
    | [] => none
    | .op "(" :: rest => do
      let (body, rest) ← list? fuel rest
      match rest with
      | .op ")" :: rest => return withRedirects (.subshell body, rest)
      | _ => none
    | t :: rest =>
      match plain? t, rest with
      | some "\x7b", rest => do
        let (body, rest) ← list? fuel rest
        return withRedirects (body, ← expect? "\x7d" rest)
      | some "if", rest => (branch? fuel rest).map withRedirects
      | some "while", rest => (loop? fuel true rest).map withRedirects
      | some "until", rest => (loop? fuel false rest).map withRedirects
      | some "for", rest => (each? fuel rest).map withRedirects
      | some "case", rest => (select? fuel rest).map withRedirects
      | some name, .op "(" :: .op ")" :: rest => do
        let (body, rest) ← command? fuel (skipSeparators rest)
        return (.define name body, rest)
      | some s, _ => if reserved.contains s then none else takeSimple [] [] [] ts
      | none, _ => takeSimple [] [] [] ts

def branch? (fuel : Nat) (ts : List Token) : Option Parsed :=
  match fuel with
  | 0 => none
  | fuel + 1 => do
    let (condition, rest) ← list? fuel ts
    let (yes, rest) ← list? fuel (← expect? "then" rest)
    match rest with
    | [] => none
    | t :: rest =>
      match plain? t with
      | some "elif" =>
        let (no, rest) ← branch? fuel rest
        return (.choose condition yes no, rest)
      | some "else" =>
        let (no, rest) ← list? fuel rest
        return (.choose condition yes no, ← expect? "fi" rest)
      | some "fi" => return (.choose condition yes .skip, rest)
      | _ => none

def loop? (fuel : Nat) (wanted : Bool) (ts : List Token) : Option Parsed :=
  match fuel with
  | 0 => none
  | fuel + 1 => do
    let (condition, rest) ← list? fuel ts
    let (body, rest) ← list? fuel (← expect? "do" rest)
    return (.loop wanted condition body, ← expect? "done" rest)

def each? (fuel : Nat) (ts : List Token) : Option Parsed :=
  match fuel with
  | 0 => none
  | fuel + 1 =>
    match ts with
    | [] => none
    | t :: rest => do
      let name ← plain? t
      let (words, rest) :=
        match expect? "in" (skipSeparators rest) with
        | some rest => let (ws, rest) := takeWords rest; (some ws, rest)
        | none => (none, rest)
      let (body, rest) ← list? fuel (← expect? "do" (skipSeparators rest))
      return (.each name words body, ← expect? "done" rest)

def select? (fuel : Nat) (ts : List Token) : Option Parsed :=
  match fuel with
  | 0 => none
  | fuel + 1 =>
    match ts with
    | .word w :: rest => do
      let rest ← expect? "in" (skipSeparators rest)
      let (arms, rest) ← arms? fuel (skipSeparators rest)
      return (.select w arms, rest)
    | _ => none

def arms? (fuel : Nat) (ts : List Token) : Option (List (List Word × Script) × List Token) :=
  match fuel with
  | 0 => none
  | fuel + 1 =>
    match expect? "esac" ts with
    | some rest => some ([], rest)
    | none => do
      let ts := match ts with
        | .op "(" :: rest => rest
        | ts => ts
      let (patterns, rest) ← patterns? ts
      let (body, rest) ← list? fuel rest
      match rest with
      | .op ";;" :: rest =>
        let (arms, rest) ← arms? fuel (skipSeparators rest)
        return ((patterns, body) :: arms, rest)
      | rest => return ([(patterns, body)], ← expect? "esac" rest)

end

def parse? (text : String) : Option Script := do
  let ts ← tokens? text
  let (script, rest) ← list? (8 * ts.length + 8) ts
  if rest.isEmpty then some script else none

end ClusterGateway.Shell.Script
