import ClusterGateway.Shell.Machine

/-!
# Fields of a command

Once parameters have their values, a word becomes any number of fields: what came from a value
outside quotes is split at blanks.
-/

namespace ClusterGateway.Shell

inductive Piece where
  | text (s : String) (quoted : Bool)
  | value (s : String)
  /-- All arguments in quotes, each a field of its own. -/
  | args (ss : List String)
  deriving DecidableEq, Repr

namespace Piece

def ofValue (s : String) (quoted : Bool) : Piece :=
  if quoted then .text s true else .value s

def toText : Piece → String
  | text s _ | value s => s
  | args ss => " ".intercalate ss

def textOf (ps : List Piece) : String := String.join (ps.map toText)

end Piece

structure Fields where
  done : List String
  open? : Option String

namespace Fields

def add (f : Fields) (s : String) : Fields := { f with open? := some (f.open?.getD "" ++ s) }

def close (f : Fields) : Fields :=
  match f.open? with
  | none => f
  | some s => ⟨s :: f.done, none⟩

def isBlank (c : Char) : Bool := c == ' ' || c == '\t' || c == '\n'

def addSplit (f : Fields) (s : String) : Fields :=
  s.toList.foldl (fun f c => if isBlank c then f.close else f.add (String.singleton c)) f

def addAll (f : Fields) : List String → Fields
  | [] => f
  | [s] => f.add s
  | s :: rest => addAll ((f.add s).close) rest

def addPiece (f : Fields) : Piece → Fields
  | .text s _ => f.add s
  | .value s => f.addSplit s
  | .args ss => f.addAll ss

/-- The fields of one word; all arguments of none at all make no field. -/
def ofPieces : List Piece → List String
  | [.text "" true, .args []] => []
  | ps => (ps.foldl addPiece ⟨[], none⟩).close.done.reverse

end Fields

end ClusterGateway.Shell
