import ClusterGateway.Shell.Command
import ClusterGateway.Shell.Parser
import ClusterGateway.Shell.Pattern

/-!
# Running a shell script

A script ends with a status or by a signal; one that takes too many steps is taken never to
end.
-/

namespace ClusterGateway.Shell

def Flow.outward : Flow → Flow
  | leave (n + 2) => leave (n + 1)
  | again (n + 2) => again (n + 1)
  | leave _ | again _ => next
  | flow => flow

namespace Machine

def settled (m : Machine) : Flow :=
  if m.exitOnError && !m.guarded && m.status != 0 then .exit else .next

def redirect (m : Machine) (documents : List String) : List Redirect → Except String Machine
  | [] => .ok m
  | .join source target :: rest => (m.withSink source (m.sink target)).redirect documents rest
  | .discard source :: rest => (m.withSink source none).redirect documents rest
  | .file path :: rest =>
    if path = "/dev/null" then { m with input := [] }.redirect documents rest else .error path
  | .document _ :: rest =>
    { m with input := Text.Utf8.encode (documents.headD "") }.redirect (documents.drop 1) rest

end Machine

def withoutLineEnds (bytes : List UInt8) : List UInt8 :=
  (bytes.reverse.dropWhile (· = 10)).reverse

mutual

def exec (fuel : Nat) (m : Machine) (s : Script) : Machine × Flow :=
  match fuel with
  | 0 => (m, .never)
  | fuel + 1 =>
    match s with
    | .skip => (m, .next)
    | .simple assignments words redirects =>
      let (m, fields) := expandAll fuel m words
      let before := m
      let m := assignments.foldl (fun m (name, w) =>
        let (m, pieces) := expand fuel m w
        m.set name (Piece.textOf pieces)) (if fields.isEmpty then m.withStatus 0 else m)
      match fields with
      | [] => (m, m.settled)
      | name :: args =>
        match redirected fuel m redirects with
        | (m, .error path) =>
          (m.complain s!"cannot open {path}: No such file" |>.withStatus 2, .next)
        | (m, .ok inner) =>
          let (after, flow) := command fuel inner name args
          let after := if assignments.isEmpty then after else after.withBindings before
          let after := if name = "exec" then after else after.restored m redirects
          (after, if flow = .next then after.settled else flow)
    | .sequence a b =>
      match exec fuel m a with
      | (m, .next) => exec fuel m b
      | ended => ended
    | .both a b =>
      match guardedly fuel m a with
      | (m, .next) => if m.status = 0 then exec fuel m b else (m, .next)
      | ended => ended
    | .either a b =>
      match guardedly fuel m a with
      | (m, .next) => if m.status = 0 then (m, .next) else exec fuel m b
      | ended => ended
    | .negate a =>
      match guardedly fuel m a with
      | (m, .next) => (m.withStatus (if m.status = 0 then 1 else 0), .next)
      | ended => ended
    | .pipe a b =>
      let (after, flow) := exec fuel m.capture a
      let (bytes, after) := after.captured
      let m := m.resume after
      match flow with
      | .killed _ | .never => (m, flow)
      | _ =>
        let (after, flow) := exec fuel { m with input := bytes } b
        let after := { m.resume after with input := m.input }
        match flow with
        | .killed _ | .never => (after, flow)
        | _ => (after, after.settled)
    | .subshell a =>
      let (after, flow) := exec fuel m a
      let after := m.resume after
      match flow with
      | .killed _ | .never => (after, flow)
      | _ => (after, after.settled)
    | .define name body =>
      ({ m with functions := (name, body) :: m.functions.filter (·.1 != name), status := 0 }, .next)
    | .choose condition yes no =>
      match guardedly fuel m condition with
      | (m, .next) => exec fuel (m.withStatus 0) (if m.status = 0 then yes else no)
      | ended => ended
    | .loop wanted condition body =>
      match guardedly fuel m condition with
      | (m, .next) =>
        if (m.status == 0) == wanted then
          match exec fuel m body with
          | (m, .next) | (m, .again 1) => exec fuel m (.loop wanted condition body)
          | (m, flow) => (m, flow.outward)
        else (m.withStatus 0, .next)
      | (m, flow) => (m, flow.outward)
    | .each name words body =>
      let (m, values) := match words with
        | some ws => expandAll fuel m ws
        | none => (m, m.args)
      execEach fuel (m.withStatus 0) name values body
    | .select word arms =>
      let (m, pieces) := expand fuel m word
      let s := Piece.textOf pieces
      let accepts (w : Word) : Bool := Glob.accepts ((expand fuel m w).2.flatMap Glob.ofPiece) s
      match arms.find? fun (ws, _) => ws.any accepts with
      | some (_, body) => exec fuel (m.withStatus 0) body
      | none => (m.withStatus 0, .next)
    | .redirected body redirects =>
      match redirected fuel m redirects with
      | (m, .error path) => (m.complain s!"cannot open {path}: No such file" |>.withStatus 2, .next)
      | (m, .ok inner) =>
        let (after, flow) := exec fuel inner body
        (after.restored m redirects, flow)

/-- Runs a part whose status is asked for. -/
def guardedly (fuel : Nat) (m : Machine) (s : Script) : Machine × Flow :=
  match fuel with
  | 0 => (m, .never)
  | fuel + 1 =>
    let (after, flow) := exec fuel { m with guarded := true } s
    ({ after with guarded := m.guarded }, flow)

def execEach (fuel : Nat) (m : Machine) (name : String) (values : List String) (body : Script) :
    Machine × Flow :=
  match fuel with
  | 0 => (m, .never)
  | fuel + 1 =>
    match values with
    | [] => (m, .next)
    | value :: rest =>
      match exec fuel (m.set name value) body with
      | (m, .next) | (m, .again 1) => execEach fuel m name rest body
      | (m, flow) => (m, flow.outward)

def redirected (fuel : Nat) (m : Machine) (rs : List Redirect) : Machine × Except String Machine :=
  match fuel with
  | 0 => (m, .ok m)
  | fuel + 1 =>
    let (m, documents) := rs.foldl (fun (m, texts) r => match r with
      | .document w => let (m, pieces) := expand fuel m w; (m, texts ++ [Piece.textOf pieces])
      | _ => (m, texts)) (m, ([] : List String))
    (m, m.redirect documents rs)

def expandAll (fuel : Nat) (m : Machine) (ws : List Word) : Machine × List String :=
  match fuel with
  | 0 => (m, [])
  | fuel + 1 =>
    ws.foldl (fun (m, fields) w =>
      let (m, pieces) := expand fuel m w
      (m, fields ++ Fields.ofPieces pieces)) (m, [])

def expand (fuel : Nat) (m : Machine) (w : Word) : Machine × List Piece :=
  match fuel with
  | 0 => (m, [])
  | fuel + 1 =>
    w.foldl (fun (m, pieces) p =>
      let (m, piece) := expandPart fuel m p
      (m, pieces ++ [piece])) (m, [])

def expandPart (fuel : Nat) (m : Machine) (p : Part) : Machine × Piece :=
  match fuel with
  | 0 => (m, .text "" true)
  | fuel + 1 =>
    match p with
    | .text s quoted => (m, .text s quoted)
    | .parameter "@" true => (m, .args m.args)
    | .parameter name quoted => (m, .ofValue (m.parameter name) quoted)
    | .withDefault name orEmpty other quoted =>
      let value := m.parameter? name
      match if orEmpty then value.filter (· ≠ "") else value with
      | some s => (m, .ofValue s quoted)
      | none =>
        let (m, s) := fill fuel m other
        (m, .ofValue s quoted)
    | .length name => (m, .value (toString (m.parameter name).length))
    | .arithmetic e =>
      let (m, e) := fill fuel m e
      (m, .value (((Arithmetic.eval? m.number e).map toString).getD ""))
    | .output script quoted =>
      match Script.parse? script with
      | none => (m.withStatus 2, .text "" quoted)
      | some s =>
        let (after, _) := exec fuel m.capture s
        let (bytes, after) := after.captured
        (m.resume after, .ofValue (Text.Utf8.decodeLossy (withoutLineEnds bytes)) quoted)

def fill (fuel : Nat) (m : Machine) (text : String) : Machine × String :=
  match fuel with
  | 0 => (m, "")
  | fuel + 1 =>
    match Token.template? (text.length + 1) [] text.toList with
    | none => (m, "")
    | some w =>
      let (m, pieces) := expand fuel m w
      (m, Piece.textOf pieces)

def command (fuel : Nat) (m : Machine) (name : String) (args : List String) : Machine × Flow :=
  match fuel with
  | 0 => (m, .never)
  | fuel + 1 =>
    match m.functions.find? (·.1 == name), name, args with
    | some (_, body), _, _ =>
      let (after, flow) := exec fuel { m with args } body
      ({ after with args := m.args }, if flow = .back then .next else flow)
    | none, "eval", args => source fuel m (" ".intercalate args)
    | none, "sh", args => shell fuel m args
    | none, "exec", [] => (m.withStatus 0, .next)
    | none, "exec", "sh" :: args => ((shell fuel m args).1, .exit)
    | none, "exec", name :: args =>
      if Command.names.contains name then ((Command.run m name args).1, .exit)
      else (m.complain s!"exec: {name}: not found" |>.withStatus 127, .exit)
    | none, "command", "-v" :: name :: _ =>
      if Command.names.contains name then (m.print (name ++ "\n").toUTF8 |>.withStatus 0, .next)
      else (m.withStatus 127, .next)
    | none, "command", name :: args => Command.run m name args
    | none, name, args =>
      match Command.run m name args with
      | (m, .killed signal) =>
        match if signal = 9 then none else m.trap? signal with
        | some action => source fuel m action
        | none => (m, .killed signal)
      | ended => ended

def source (fuel : Nat) (m : Machine) (text : String) : Machine × Flow :=
  match fuel with
  | 0 => (m, .never)
  | fuel + 1 =>
    match Script.parse? text with
    | some s => exec fuel (m.withStatus 0) s
    | none => (m.complain "Syntax error" |>.withStatus 2, .exit)

def shell (fuel : Nat) (m : Machine) (args : List String) : Machine × Flow :=
  match fuel with
  | 0 => (m, .never)
  | fuel + 1 =>
    let (script, child) := match args with
      | "-c" :: script :: name :: args => (script, m.child name args)
      | ["-c", script] => (script, m.child "sh" [])
      | _ => ("", m.child "sh" [])
    match source fuel child script with
    | (after, .never) => (m.resume after, .never)
    | (after, .killed signal) => ((m.resume after).withStatus (128 + signal), .next)
    | (after, _) => (m.resume after, .next)

end

def maxSteps : Nat := 20000

/-- Runs what is to be run in the end; the status stays unless that sets one. -/
def atEnd (m : Machine) (flow : Flow) : Machine × Flow :=
  match flow, m.trap? 0 with
  | .killed _, _ | .never, _ | _, none => (m, flow)
  | _, some action =>
    match source maxSteps { m with traps := m.traps.filter (·.1 != 0) } action with
    | (after, .exit) => (after, .exit)
    | (after, .killed n) => (after, .killed n)
    | (after, .never) => (after, .never)
    | (after, _) => (after.withStatus m.status, .exit)

def run (script name : String) (args : List String) : Machine × Flow :=
  let m := Machine.start name args
  match tokens? script with
  | none => (m.complain "Syntax error: Unterminated quoted string" |>.withStatus 2, .exit)
  | some _ =>
    match Script.parse? script with
    | some s =>
      let (m, flow) := exec maxSteps m s
      atEnd m flow
    | none => (m.complain "Syntax error" |>.withStatus 2, .exit)

end ClusterGateway.Shell
