import ClusterGateway.Shell.Fields
import ClusterGateway.Shell.Lexer

/-!
# Patterns of a choice

A star stands for any text, a question mark for any character and brackets for one of several;
quoted characters stand for themselves.
-/

namespace ClusterGateway.Shell

inductive Glob where
  | char (c : Char)
  | any
  | many
  | oneOf (negated : Bool) (cs : List Char)
  deriving DecidableEq, Repr

namespace Glob

def ofPlain : Nat → List Char → List Glob
  | 0, _ => []
  | _, [] => []
  | fuel + 1, c :: rest =>
    if c = '*' then many :: ofPlain fuel rest
    else if c = '?' then any :: ofPlain fuel rest
    else if c = '[' then
      match Token.splitAt? [']'] [] rest with
      | some ('!' :: cs, rest) => oneOf true cs :: ofPlain fuel rest
      | some (cs, rest) => oneOf false cs :: ofPlain fuel rest
      | none => char c :: ofPlain fuel rest
    else char c :: ofPlain fuel rest

def ofPiece : Piece → List Glob
  | .text s false | .value s => ofPlain (s.length + 1) s.toList
  | p => p.toText.toList.map char

def inRange (c : Char) : List Char → Bool
  | a :: '-' :: b :: rest => (a ≤ c && c ≤ b) || inRange c rest
  | a :: rest => a == c || inRange c rest
  | [] => false

def matchesWithin : Nat → List Glob → List Char → Bool
  | 0, _, _ => false
  | _, [], cs => cs.isEmpty
  | fuel + 1, many :: gs, cs =>
    matchesWithin fuel gs cs || (match cs with
      | [] => false
      | _ :: rest => matchesWithin fuel (many :: gs) rest)
  | _, _ :: _, [] => false
  | fuel + 1, char d :: gs, c :: rest => c == d && matchesWithin fuel gs rest
  | fuel + 1, any :: gs, _ :: rest => matchesWithin fuel gs rest
  | fuel + 1, oneOf negated ds :: gs, c :: rest => (inRange c ds != negated) && matchesWithin fuel gs rest

def accepts (gs : List Glob) (s : String) : Bool :=
  matchesWithin (gs.length + s.length + 1) gs s.toList

end Glob

end ClusterGateway.Shell
