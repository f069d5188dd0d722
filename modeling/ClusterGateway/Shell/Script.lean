/-!
# Shell scripts

The part of the command language that describe tools are scripted in: simple commands with
assignments and redirections, pipes, lists, conditions, loops, choices over patterns and
functions.
-/

namespace ClusterGateway.Shell

/-- A part of a word; what is quoted is neither split nor read as a pattern. -/
inductive Part where
  | text (s : String) (quoted : Bool)
  | parameter (name : String) (quoted : Bool)
  /-- A parameter with a text in its place when it is unset or, with `orEmpty`, empty. -/
  | withDefault (name : String) (orEmpty : Bool) (other : String) (quoted : Bool)
  | length (name : String)
  | arithmetic (expression : String)
  | output (script : String) (quoted : Bool)
  deriving DecidableEq, Repr

abbrev Word := List Part

inductive Channel where
  | out
  | err
  deriving DecidableEq, Repr

inductive Redirect where
  /-- What goes to one channel goes where the other goes. -/
  | join (source target : Channel)
  | discard (source : Channel)
  | file (path : String)
  | document (content : Word)
  deriving DecidableEq, Repr

def Redirect.isInput : Redirect → Bool
  | file _ | document _ => true
  | join _ _ | discard _ => false

inductive Script where
  | skip
  | simple (assignments : List (String × Word)) (words : List Word) (redirects : List Redirect)
  | sequence (a b : Script)
  | both (a b : Script)
  | either (a b : Script)
  | negate (a : Script)
  | pipe (a b : Script)
  /-- Runs apart: what it changes is forgotten. -/
  | subshell (a : Script)
  | define (name : String) (body : Script)
  | choose (condition yes no : Script)
  /-- Runs the body while the condition's success is as wanted. -/
  | loop (wanted : Bool) (condition body : Script)
  /-- Without words it goes through the arguments. -/
  | each (name : String) (words : Option (List Word)) (body : Script)
  | select (word : Word) (arms : List (List Word × Script))
  | redirected (body : Script) (redirects : List Redirect)
  deriving Repr

end ClusterGateway.Shell
