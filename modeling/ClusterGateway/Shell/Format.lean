import ClusterGateway.Shell.Arithmetic

/-!
# Output of texts and formats

Escapes of both commands that print, and the directives of a format.
-/

namespace ClusterGateway.Shell

def octal (cs : List Char) : Nat :=
  cs.foldl (fun n c => n * 8 + (c.toNat - 48)) 0

def isOctal (c : Char) : Bool := '0' ≤ c && c ≤ '7'

def escapedByte? (c : Char) : Option UInt8 :=
  if c = 'n' then some 10
  else if c = 't' then some 9
  else if c = 'r' then some 13
  else if c = 'a' then some 7
  else if c = 'b' then some 8
  else if c = 'f' then some 12
  else if c = 'v' then some 11
  else if c = '\\' then some 92
  else none

/-- A text with its escapes carried out, and whether it ends all output. In `echo` an octal
number starts with a zero of its own. -/
def unescape (leadingZero : Bool) : Nat → ByteArray → List Char → ByteArray × Bool
  | 0, out, _ => (out, false)
  | _, out, [] => (out, false)
  | fuel + 1, out, '\\' :: c :: rest =>
    if c = 'c' then (out, true)
    else match escapedByte? c with
      | some b => unescape leadingZero fuel (out.push b) rest
      | none =>
        let digits := if leadingZero then (if c = '0' then rest else []) else c :: rest
        let number := (digits.take 3).takeWhile isOctal
        if (leadingZero && c = '0') || !number.isEmpty then
          unescape leadingZero fuel (out.push (UInt8.ofNat (octal number)))
            (if leadingZero then rest.drop number.length else (c :: rest).drop number.length)
        else unescape leadingZero fuel (out ++ (String.ofList ['\\', c]).toUTF8) rest
  | fuel + 1, out, c :: rest => unescape leadingZero fuel (out ++ (String.singleton c).toUTF8) rest

def echo (args : List String) : ByteArray :=
  let (newline, args) := match args with
    | "-n" :: args => (false, args)
    | args => (true, args)
  let s := " ".intercalate args
  let (bytes, stopped) := unescape true (s.length + 1) .empty s.toList
  if newline && !stopped then bytes.push 10 else bytes

structure Directive where
  flags : List Char
  width : Nat
  precision : Option Nat

namespace Directive

def isFlag (c : Char) : Bool := c == '-' || c == '+' || c == ' ' || c == '0' || c == '#'

def read (cs : List Char) : Directive × List Char :=
  let flags := cs.takeWhile isFlag
  let rest := cs.drop flags.length
  let width := rest.takeWhile Char.isDigit
  let rest := rest.drop width.length
  match rest with
  | '.' :: rest =>
    let precision := rest.takeWhile Char.isDigit
    (⟨flags, Arithmetic.digits width, some (Arithmetic.digits precision)⟩, rest.drop precision.length)
  | rest => (⟨flags, Arithmetic.digits width, none⟩, rest)

variable (d : Directive)

def pad (bytes : ByteArray) : ByteArray :=
  let blanks := ByteArray.mk (Array.replicate (d.width - bytes.size) 32)
  if d.flags.contains '-' then bytes ++ blanks else blanks ++ bytes

def text (bytes : ByteArray) : ByteArray :=
  d.pad (match d.precision with
    | some n => bytes.extract 0 n
    | none => bytes)

def number (sign : String) (digits : List Char) : ByteArray :=
  let least := match d.precision with
    | some n => n
    | none =>
      if d.flags.contains '0' && !d.flags.contains '-' then d.width - sign.length else 1
  let zeros := List.replicate (least - digits.length) '0'
  d.pad (sign ++ String.ofList (zeros ++ digits)).toUTF8

def integer (n : Int) : ByteArray :=
  let sign := if n < 0 then "-" else if d.flags.contains '+' then "+" else if d.flags.contains ' ' then " " else ""
  d.number sign (Nat.toDigits 10 n.natAbs)

/-- A number without a sign; a negative one counts from the end of the words of 64 bits. -/
def unsigned (base : Nat) (upper : Bool) (n : Int) : ByteArray :=
  let digits := Nat.toDigits base (n % Int.pow 2 64).toNat
  d.number "" (if upper then digits.map Char.toUpper else digits)

end Directive

def formatOnce : Nat → ByteArray → List Char → List String → ByteArray × List String
  | 0, out, _, args => (out, args)
  | _, out, [], args => (out, args)
  | fuel + 1, out, '%' :: rest, args =>
    let (d, rest) := Directive.read rest
    let arg := args.headD ""
    let integer := (Arithmetic.operand? (args.headD "0")).getD 0
    let put (bytes : ByteArray) (rest : List Char) := formatOnce fuel (out ++ bytes) rest (args.drop 1)
    match rest with
    | [] => (out.push 37, args)
    | c :: rest =>
      if c = '%' then formatOnce fuel (out.push 37) rest args
      else if c = 's' then put (d.text arg.toUTF8) rest
      else if c = 'c' then put (d.text (String.ofList (arg.toList.take 1)).toUTF8) rest
      else if c = 'b' then put (d.text (unescape true (arg.length + 1) .empty arg.toList).1) rest
      else if c = 'd' ∨ c = 'i' then put (d.integer integer) rest
      else if c = 'u' then put (d.unsigned 10 false integer) rest
      else if c = 'o' then put (d.unsigned 8 false integer) rest
      else if c = 'x' ∨ c = 'X' then put (d.unsigned 16 (c == 'X') integer) rest
      else formatOnce fuel (out ++ (String.ofList ['%', c]).toUTF8) rest args
  | fuel + 1, out, '\\' :: c :: rest, args =>
    match escapedByte? c with
    | some b => formatOnce fuel (out.push b) rest args
    | none =>
      let number := ((c :: rest).take 3).takeWhile isOctal
      if number.isEmpty then formatOnce fuel (out ++ (String.ofList ['\\', c]).toUTF8) rest args
      else formatOnce fuel (out.push (UInt8.ofNat (octal number))) ((c :: rest).drop number.length) args
  | fuel + 1, out, c :: rest, args => formatOnce fuel (out ++ (String.singleton c).toUTF8) rest args

/-- The format is used again while arguments are left and it takes some. -/
def format : Nat → ByteArray → String → List String → ByteArray
  | 0, out, _, _ => out
  | fuel + 1, out, f, args =>
    let (out, left) := formatOnce (f.length + 1) out f.toList args
    if left.isEmpty || left.length == args.length then out else format fuel out f left

end ClusterGateway.Shell
