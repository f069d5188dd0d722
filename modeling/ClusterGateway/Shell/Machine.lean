import ClusterGateway.Shell.Arithmetic
import ClusterGateway.Shell.Script
import ClusterGateway.Shell.Signal

/-!
# The state of a running script

Output goes to numbered sinks, of which the first two are the output of the whole script. A
pipe and a script within a word add one that holds what is written until it is used.
-/

namespace ClusterGateway.Shell

inductive Flow where
  | next
  | exit
  | killed (signal : Nat)
  | never
  /-- Leaves so many loops, or goes on with the next turn of the last of them. -/
  | leave (loops : Nat)
  | again (loops : Nat)
  | back
  deriving DecidableEq, Repr

structure Machine where
  name : String
  args : List String
  bindings : List (String × String)
  functions : List (String × Script)
  /-- What to run at a signal, and at the end under zero. -/
  traps : List (Nat × String)
  input : List UInt8
  sinks : Array ByteArray
  /-- Where the two channels go at the moment; none is nowhere. -/
  out : Option Nat
  err : Option Nat
  status : Nat
  /-- Whether a command that fails ends the script, where its status is not asked for. -/
  exitOnError : Bool
  guarded : Bool
  elapsed : Nat

namespace Machine

def start (name : String) (args : List String) : Machine :=
  { name, args, bindings := [], functions := [], traps := [], input := [],
    sinks := #[.empty, .empty], out := some 0, err := some 1, status := 0,
    exitOnError := false, guarded := false, elapsed := 0 }

def pid : String := "4242"

variable (m : Machine)

def child (name : String) (args : List String) : Machine :=
  { start name args with
    bindings := m.bindings, input := m.input, sinks := m.sinks, out := m.out, err := m.err, elapsed := m.elapsed }

/-! ## Channels -/

def sink : Channel → Option Nat
  | .out => m.out
  | .err => m.err

def withSink (c : Channel) (sink : Option Nat) : Machine :=
  match c with
  | .out => { m with out := sink }
  | .err => { m with err := sink }

def emit (c : Channel) (bytes : ByteArray) : Machine :=
  match m.sink c with
  | none => m
  | some i => { m with sinks := m.sinks.modify i (· ++ bytes) }

def print (bytes : ByteArray) : Machine := m.emit .out bytes

def warn (s : String) : Machine := m.emit .err (s ++ "\n").toUTF8

def complain (s : String) : Machine := m.warn s!"{m.name}: 1: {s}"

def written (c : Channel) : List UInt8 :=
  (m.sinks.getD (match c with | .out => 0 | .err => 1) .empty).toList

def capture : Machine := { m with sinks := m.sinks.push .empty, out := some m.sinks.size }

def captured : List UInt8 × Machine :=
  ((m.sinks.back?.getD .empty).toList, { m with sinks := m.sinks.pop })

def resume (after : Machine) : Machine :=
  { m with sinks := after.sinks, status := after.status, elapsed := after.elapsed, input := after.input }

def restored (before : Machine) (rs : List Redirect) : Machine :=
  { m with
    out := before.out, err := before.err,
    input := if rs.any Redirect.isInput then before.input else m.input }

/-! ## Status and parameters -/

def withStatus (n : Nat) : Machine := { m with status := n }

def set (name value : String) : Machine :=
  { m with bindings := (name, value) :: m.bindings.filter (·.1 != name) }

def unset (name : String) : Machine :=
  { m with bindings := m.bindings.filter (·.1 != name), functions := m.functions.filter (·.1 != name) }

def value? (name : String) : Option String :=
  (m.bindings.find? (·.1 == name)).map Prod.snd

def parameter? (name : String) : Option String :=
  if name = "0" then some m.name
  else if name = "#" then some (toString m.args.length)
  else if name = "?" then some (toString m.status)
  else if name = "$" then some pid
  else if name = "@" ∨ name = "*" then some (" ".intercalate m.args)
  else if !name.isEmpty && name.all Char.isDigit then m.args[name.toNat?.getD 0 - 1]?
  else m.value? name

def parameter (name : String) : String := (m.parameter? name).getD ""

def number (name : String) : Int :=
  (Arithmetic.toInt? (m.parameter name)).getD 0

def withBindings (before : Machine) : Machine := { m with bindings := before.bindings }

def trap? (signal : Nat) : Option String :=
  (m.traps.find? (·.1 == signal)).map Prod.snd

end Machine

end ClusterGateway.Shell
