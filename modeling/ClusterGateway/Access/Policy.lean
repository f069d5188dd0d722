import ClusterGateway.Access.Level
import ClusterGateway.Access.Verb

/-!
# Access policies

The least level that each verb asks for; a verb without one is not available.
-/

namespace ClusterGateway

structure Policy where
  list : Option Level
  get : Option Level
  describe : Option Level
  create : Option Level
  update : Option Level
  delete : Option Level
  deriving DecidableEq, Repr

namespace Policy

def split (read write : Level) : Policy :=
  ⟨read, read, read, write, write, write⟩

def uniform (level : Level) : Policy :=
  split level level

def readOnly (read : Level) : Policy :=
  ⟨read, read, read, none, none, none⟩

def set (p : Policy) (verb : Verb) (level : Option Level) : Policy :=
  match verb with
  | .list => { p with list := level }
  | .get => { p with get := level }
  | .describe => { p with describe := level }
  | .create => { p with create := level }
  | .update => { p with update := level }
  | .delete => { p with delete := level }

def allow (p : Policy) (verb : Verb) (level : Level) : Policy :=
  p.set verb (some level)

def without (p : Policy) (verb : Verb) : Policy :=
  p.set verb none

def required? (p : Policy) : Verb → Option Level
  | .list => p.list
  | .get => p.get
  | .describe => p.describe
  | .create => p.create
  | .update => p.update
  | .delete => p.delete

def allows (p : Policy) (verb : Verb) (level : Level) : Bool :=
  match p.required? verb with
  | some required => required ≤ level
  | none => false

def toJson (p : Policy) : Json :=
  .ofFields (Verb.all.map fun v => (v.name, .ofOption (fun l => .str l.name) (p.required? v)))

@[simp] theorem required?_set_self (p : Policy) (verb : Verb) (level : Option Level) :
    (p.set verb level).required? verb = level := by
  cases verb <;> rfl

theorem required?_set_of_ne (p : Policy) {verb other : Verb} (level : Option Level) (h : other ≠ verb) :
    (p.set verb level).required? other = p.required? other := by
  cases verb <;> cases other <;> first | rfl | exact absurd rfl h

end Policy

end ClusterGateway
