import ClusterGateway.Shell.Fields
import ClusterGateway.Shell.Format
import ClusterGateway.Text.Utf8

/-!
# Commands

The commands that neither look at the script nor run a part of it. There are no files but the
empty one, so that whatever else is opened is not there.
-/

namespace ClusterGateway.Shell.Command

def test? (args : List String) : Option Bool :=
  let compare (op : Int → Int → Bool) (a b : String) : Option Bool := do
    return op (← Arithmetic.toInt? a) (← Arithmetic.toInt? b)
  match args with
  | [] => some false
  | [s] => some (!s.isEmpty)
  | ["!", s] => some s.isEmpty
  | ["-n", s] => some (!s.isEmpty)
  | ["-z", s] => some s.isEmpty
  | [_, _] => some false
  | [a, "=", b] => some (a == b)
  | [a, "!=", b] => some (a != b)
  | [a, "-eq", b] => compare (fun x y => x == y) a b
  | [a, "-ne", b] => compare (fun x y => x != y) a b
  | [a, "-lt", b] => compare (fun x y => x < y) a b
  | [a, "-le", b] => compare (fun x y => x ≤ y) a b
  | [a, "-gt", b] => compare (fun x y => y < x) a b
  | [a, "-ge", b] => compare (fun x y => y ≤ x) a b
  | ["!", a, b] => (test? [a, b]).map (!·)
  | ["!", a, op, b] => (test? [a, op, b]).map (!·)
  | _ => none
termination_by args.length

def testAll? (args : List String) : Option Bool := do
  let terms (op : String) (args : List String) := (args.splitOnP (· == op))
  if args.length ≤ 4 then test? args
  else
    let alternatives ← (terms "-o" args).mapM fun ts => do
      return ((← (terms "-a" ts).mapM test?).all id)
    return alternatives.any id

def killTarget? : List String → Option (Nat × List String)
  | "-s" :: s :: pids => (Signal.number? s).map (·, pids)
  | s :: pids =>
    if s.startsWith "-SIG" then none
    else if s.startsWith "-" then (Signal.number? (s.drop 1).toString).map (·, pids)
    else some (15, s :: pids)
  | [] => none

def milliseconds? (s : String) : Option Nat :=
  match s.splitOn "." with
  | [whole] => if s.isEmpty || !s.all Char.isDigit then none else some (Arithmetic.digits whole.toList * 1000)
  | [whole, fraction] =>
    if s == "." || !whole.all Char.isDigit || !fraction.all Char.isDigit then none
    else
      let thousandths := fraction.toList.take 3
      some (Arithmetic.digits whole.toList * 1000 +
        Arithmetic.digits thousandths * Nat.pow 10 (3 - thousandths.length))
  | _ => none

def line (bytes : List UInt8) : List UInt8 × Bool × List UInt8 :=
  let text := bytes.takeWhile (· ≠ 10)
  match bytes.drop text.length with
  | [] => (text, false, [])
  | _ :: rest => (text, true, rest)

/-- Values for names, where the last takes all that is left. -/
def assignFields : List String → List Char → Machine → Machine
  | [], _, m => m
  | [name], cs, m =>
    let trimmed := (cs.dropWhile Fields.isBlank).reverse.dropWhile Fields.isBlank
    m.set name (String.ofList trimmed.reverse)
  | name :: names, cs, m =>
    let cs := cs.dropWhile Fields.isBlank
    let value := cs.takeWhile (!Fields.isBlank ·)
    assignFields names (cs.drop value.length) (m.set name (String.ofList value))

def readLine (names : List String) (m : Machine) : Machine :=
  let names := names.filter (· != "-r")
  let (text, ended, rest) := line m.input
  let m := assignFields names (Text.Utf8.decodeLossy text).toList { m with input := rest }
  m.withStatus (if ended then 0 else 1)

def missing (command file : String) (m : Machine) : Machine :=
  m.warn s!"{command}: {file}: No such file or directory" |>.withStatus 1

def cat (args : List String) (m : Machine) : Machine :=
  let all (m : Machine) : Machine := { m.print ⟨m.input.toArray⟩ with input := [] }
  if args.isEmpty then all m
  else args.foldl (fun m a =>
    if a = "-" ∨ a = "/dev/stdin" then all m else if a = "/dev/null" then m else missing "cat" a m) m

def firstLines : Nat → List UInt8 → List UInt8
  | 0, _ => []
  | n + 1, bytes =>
    match line bytes with
    | (text, true, rest) => text ++ 10 :: firstLines n rest
    | (text, false, _) => text

def lastLines (n : Nat) (bytes : List UInt8) : List UInt8 :=
  let ends := (bytes.dropLast.filter (· = 10)).length + 1
  (List.range (ends - n)).foldl (fun bytes _ => (line bytes).2.2) bytes

def count? : List String → Option (Bool × Nat)
  | [] => some (false, 10)
  | ["-n", n] => n.toNat?.map (false, ·)
  | ["-c", n] => n.toNat?.map (true, ·)
  | [s] =>
    if s.startsWith "-n" then ((s.drop 2).toString.toNat?).map (false, ·)
    else if s.startsWith "-c" then ((s.drop 2).toString.toNat?).map (true, ·)
    else if s.startsWith "-" then ((s.drop 1).toString.toNat?).map (false, ·)
    else none
  | _ => none

def head (args : List String) (m : Machine) : Machine :=
  match count? args with
  | some (true, n) => { m.print ⟨(m.input.take n).toArray⟩ with input := m.input.drop n }
  | some (false, n) => { m.print ⟨(firstLines n m.input).toArray⟩ with input := [] }
  | none => m.withStatus 1

def tail (args : List String) (m : Machine) : Machine :=
  match count? args with
  | some (true, n) => { m.print ⟨(m.input.drop (m.input.length - n)).toArray⟩ with input := [] }
  | some (false, n) => { m.print ⟨(lastLines n m.input).toArray⟩ with input := [] }
  | none => m.withStatus 1

def words (bytes : List UInt8) : Nat :=
  let isBlank (b : UInt8) : Bool := b == 32 || (9 ≤ b && b ≤ 13)
  ((bytes.zip (32 :: bytes)).filter fun (b, before) => !isBlank b && isBlank before).length

def wordCount (args : List String) (m : Machine) : Machine :=
  let lines := (m.input.filter (· = 10)).length
  let put (n : Nat) := { m.print (toString n ++ "\n").toUTF8 with input := [] }
  let wide (n : Nat) := (Directive.mk [] 7 none).number "" (Nat.toDigits 10 n)
  match args with
  | ["-l"] => put lines
  | ["-c"] => put m.input.length
  | ["-w"] => put (words m.input)
  | [] =>
    let blank := " ".toUTF8
    { m.print (wide lines ++ blank ++ wide (words m.input) ++ blank ++ wide m.input.length ++ "\n".toUTF8)
      with input := [] }
  | _ => m.withStatus 1

def sequence? : List String → Option (List Int)
  | [last] => sequence? ["1", "1", last]
  | [first, last] => sequence? [first, "1", last]
  | [first, step, last] => do
    let first ← Arithmetic.toInt? first
    let step ← Arithmetic.toInt? step
    let last ← Arithmetic.toInt? last
    if step = 0 then none
    return (List.range (((last - first) / step + 1).toNat)).map fun (i : Nat) => first + step * (i : Int)
  | _ => none
termination_by args => 3 - args.length

def assignment (s : String) : String × Option String :=
  let name := s.toList.takeWhile (· ≠ '=')
  match s.toList.drop name.length with
  | [] => (s, none)
  | _ :: value => (String.ofList name, some (String.ofList value))

def assignAll (args : List String) (m : Machine) : Machine :=
  args.foldl (fun m a => match assignment a with
    | (name, some value) => m.set name value
    | (_, none) => m) m

def setAll (args : List String) (m : Machine) : Machine :=
  match args with
  | [] => m
  | "--" :: args => { m with args }
  | a :: rest =>
    if a.startsWith "-" then
      setAll rest (if a.toList.contains 'e' then { m with exitOnError := true } else m)
    else if a.startsWith "+" then
      setAll rest (if a.toList.contains 'e' then { m with exitOnError := false } else m)
    else { m with args := a :: rest }

/-- Sets what to run at signals and, at zero, in the end; a dash takes it back. -/
def trap (args : List String) (m : Machine) : Machine :=
  match args with
  | [] => m
  | action :: signals =>
    signals.foldl (fun m s =>
      match if s = "EXIT" then some 0 else Signal.number? s with
      | none => m.complain s!"trap: {s}: bad trap" |>.withStatus 1
      | some n =>
        let others := m.traps.filter (·.1 != n)
        { m with traps := if action = "-" then others else (n, action) :: others }) m

def number (args : List String) (default : Nat) : Option Nat :=
  match args with
  | [] => some default
  | s :: _ => if s.isEmpty || !s.all Char.isDigit then none else some (Arithmetic.digits s.toList)

def illegal (m : Machine) (command : String) (args : List String) : Machine × Flow :=
  (m.complain (command ++ ": Illegal number: " ++ args.headD "") |>.withStatus 2, .exit)

def kill (args : List String) (m : Machine) : Machine × Flow :=
  match killTarget? args with
  | some (signal, pids) =>
    if pids.contains Machine.pid then
      if Signal.isIgnored signal then (m, .next)
      else if Signal.stops signal then (m, .never)
      else (m, .killed signal)
    else (m.withStatus 1, .next)
  | none =>
    let option := String.ofList (((args.headD "").toList.drop 1).take 1)
    (m.complain s!"kill: Illegal option -{option}" |>.withStatus 2, .next)

def idle : List String := [":", "true", "umask", "wait", "ulimit"]

def names : List String :=
  idle ++ ["false", "echo", "printf", "exit", "return", "break", "continue", "shift", "read", "cat", "head",
    "tail", "wc", "seq", "sleep", "test", "[", "kill", "set", "unset", "export", "readonly", "local", "trap",
    "cd", "eval", "exec", "command", "sh"]

def run (m : Machine) (command : String) (args : List String) : Machine × Flow :=
  let ok := m.withStatus 0
  if idle.contains command then (ok, .next)
  else match command with
  | "false" => (m.withStatus 1, .next)
  | "echo" => (ok.print (echo args), .next)
  | "printf" =>
    match args with
    | [] => (m.complain "printf: usage: printf format [arg ...]" |>.withStatus 2, .next)
    | f :: args => (ok.print (format (args.length + 1) .empty f args), .next)
  | "exit" =>
    match number args m.status with
    | some n => (m.withStatus (n % 256), .exit)
    | none => illegal m command args
  | "return" =>
    match number args m.status with
    | some n => (m.withStatus n, .back)
    | none => illegal m command args
  | "break" | "continue" =>
    match number args 1 with
    | some (n + 1) => (ok, if command = "break" then .leave (n + 1) else .again (n + 1))
    | _ => illegal m command args
  | "shift" =>
    match number args 1 with
    | some n =>
      if n ≤ m.args.length then ({ ok with args := m.args.drop n }, .next)
      else (m.complain "shift: can't shift that many" |>.withStatus 2, .exit)
    | none => illegal m command args
  | "read" => (readLine args m, .next)
  | "cat" => (cat args ok, .next)
  | "head" => (head args ok, .next)
  | "tail" => (tail args ok, .next)
  | "wc" => (wordCount args ok, .next)
  | "seq" =>
    match sequence? args with
    | some ns => (ok.print (String.join (ns.map fun n => toString n ++ "\n")).toUTF8, .next)
    | none => (m.withStatus 1, .next)
  | "sleep" =>
    match args.mapM milliseconds? with
    | some times => ({ ok with elapsed := times.foldl (· + ·) m.elapsed }, .next)
    | none =>
      let m := m.warn ("sleep: invalid time interval \x27" ++ args.headD "" ++ "\x27")
      (m.warn "Try 'sleep --help' for more information." |>.withStatus 1, .next)
  | "set" => (setAll args ok, .next)
  | "unset" => (args.foldl (fun m a => if a.startsWith "-" then m else m.unset a) ok, .next)
  | "export" | "readonly" | "local" => (assignAll args ok, .next)
  | "trap" => (trap args ok, .next)
  | "cd" =>
    match args with
    | [] | "/" :: _ | "/tmp" :: _ | "." :: _ => (ok, .next)
    | d :: _ => (m.complain s!"cd: can't cd to {d}" |>.withStatus 2, .next)
  | "test" | "[" =>
    if command = "[" && args.getLast? ≠ some "]" then (m.complain "[: missing ]" |>.withStatus 2, .next)
    else match testAll? (if command = "[" then args.dropLast else args) with
    | some true => (ok, .next)
    | some false => (m.withStatus 1, .next)
    | none =>
      let bad := args.find? fun a => !a.startsWith "-" && (Arithmetic.toInt? a).isNone
      (m.complain (command ++ ": Illegal number: " ++ bad.getD "") |>.withStatus 2, .next)
  | "kill" => kill args ok
  | _ => (m.complain s!"{command}: not found" |>.withStatus 127, .next)

end ClusterGateway.Shell.Command
