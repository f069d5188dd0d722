import ClusterGateway.Json.Basic
import ClusterGateway.Text.Blank

/-!
# Access levels

Three levels in a row: what a level allows, every higher one allows too.
-/

namespace ClusterGateway

inductive Level where
  | reader
  | user
  | admin
  deriving DecidableEq, Repr

namespace Level

def all : List Level := [reader, user, admin]

def rank : Level → Nat
  | reader => 0
  | user => 1
  | admin => 2

instance : LE Level := ⟨fun a b => a.rank ≤ b.rank⟩

instance (a b : Level) : Decidable (a ≤ b) := inferInstanceAs (Decidable (a.rank ≤ b.rank))

def name : Level → String
  | reader => "reader"
  | user => "user"
  | admin => "admin"

instance : ToString Level := ⟨name⟩

def ofName? (s : String) : Option Level :=
  all.find? fun l => l.name == s

theorem le_trans {a b c : Level} (h : a ≤ b) (h' : b ≤ c) : a ≤ c := Nat.le_trans h h'

@[simp] theorem ofName?_name (l : Level) : ofName? l.name = some l := by
  cases l <;> decide

inductive ParseError where
  | unknown (text : String)
  deriving DecidableEq, Repr

def ParseError.message : ParseError → String
  | unknown text => s!"Invalid access level: {text}"

/-- Blanks around the name and the case of ASCII letters do not matter. -/
def parse (s : String) : Except ParseError Level :=
  let text := Text.asciiLower (Text.trim s)
  match ofName? text with
  | some l => .ok l
  | none => .error (.unknown text)

end Level

end ClusterGateway
