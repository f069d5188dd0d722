import ClusterGateway.Json.Basic
import ClusterGateway.Text.Blank

/-!
# Verbs

The six operations on a kind of resource.
-/

namespace ClusterGateway

inductive Verb where
  | list
  | get
  | describe
  | create
  | update
  | delete
  deriving DecidableEq, Repr

namespace Verb

def all : List Verb := [list, get, describe, create, update, delete]

def name : Verb → String
  | list => "list"
  | get => "get"
  | describe => "describe"
  | create => "create"
  | update => "update"
  | delete => "delete"

instance : ToString Verb := ⟨name⟩

def ofName? (s : String) : Option Verb :=
  all.find? fun v => v.name == s

@[simp] theorem ofName?_name (v : Verb) : ofName? v.name = some v := by
  cases v <;> decide

inductive ParseError where
  | unknown (text : String)
  deriving DecidableEq, Repr

def ParseError.message : ParseError → String
  | unknown text => s!"Invalid verb: {text}"

/-- As for levels, blanks and case do not matter; `patch` is another word for `update`. -/
def parse (s : String) : Except ParseError Verb :=
  let text := Text.asciiLower (Text.trim s)
  match ofName? text with
  | some v => .ok v
  | none => if text == "patch" then .ok update else .error (.unknown text)

end Verb

end ClusterGateway
