import ClusterGateway.Decimal.Binary64

/-!
# JSON values

An object is a list of fields in the order of their names, each name once; `insert`, `erase`
and `ofFields` keep it so. Integers that fit 64 bits, signed or unsigned, stay integers, and
every other number is binary floating point.
-/

namespace ClusterGateway

open Decimal (Binary64)

inductive Json.Number where
  | int (value : Int)
  | real (value : Binary64)
  deriving DecidableEq, Repr

inductive Json where
  | null
  | bool (value : Bool)
  | num (value : Json.Number)
  | str (value : String)
  | arr (items : List Json)
  | obj (fields : List (String × Json))
  deriving Repr

namespace Json

instance : Inhabited Json := ⟨null⟩

/-! ## Equality -/

mutual

def decEq : (a b : Json) → Decidable (a = b)
  | null, null => isTrue rfl
  | bool a, bool b => if h : a = b then isTrue (h ▸ rfl) else isFalse fun e => h (by injection e)
  | num a, num b => if h : a = b then isTrue (h ▸ rfl) else isFalse fun e => h (by injection e)
  | str a, str b => if h : a = b then isTrue (h ▸ rfl) else isFalse fun e => h (by injection e)
  | arr a, arr b =>
    match decEqItems a b with
    | isTrue h => isTrue (h ▸ rfl)
    | isFalse h => isFalse fun e => h (by injection e)
  | obj a, obj b =>
    match decEqFields a b with
    | isTrue h => isTrue (h ▸ rfl)
    | isFalse h => isFalse fun e => h (by injection e)
  | null, bool _ | null, num _ | null, str _ | null, arr _ | null, obj _ => isFalse nofun
  | bool _, null | bool _, num _ | bool _, str _ | bool _, arr _ | bool _, obj _ => isFalse nofun
  | num _, null | num _, bool _ | num _, str _ | num _, arr _ | num _, obj _ => isFalse nofun
  | str _, null | str _, bool _ | str _, num _ | str _, arr _ | str _, obj _ => isFalse nofun
  | arr _, null | arr _, bool _ | arr _, num _ | arr _, str _ | arr _, obj _ => isFalse nofun
  | obj _, null | obj _, bool _ | obj _, num _ | obj _, str _ | obj _, arr _ => isFalse nofun

def decEqItems : (a b : List Json) → Decidable (a = b)
  | [], [] => isTrue rfl
  | [], _ :: _ | _ :: _, [] => isFalse nofun
  | x :: a, y :: b =>
    match decEq x y, decEqItems a b with
    | isTrue h, isTrue h' => isTrue (h ▸ h' ▸ rfl)
    | isFalse h, _ => isFalse fun e => h (by injection e)
    | _, isFalse h => isFalse fun e => h (by injection e)

def decEqFields : (a b : List (String × Json)) → Decidable (a = b)
  | [], [] => isTrue rfl
  | [], _ :: _ | _ :: _, [] => isFalse nofun
  | (k, x) :: a, (l, y) :: b =>
    match decEq x y, decEqFields a b with
    | isTrue h, isTrue h' =>
      if e : k = l then isTrue (h ▸ h' ▸ e ▸ rfl)
      else isFalse fun c => e (by injection c with c; injection c)
    | isFalse h, _ => isFalse fun e => h (by injection e with e; injection e)
    | _, isFalse h => isFalse fun e => h (by injection e)

end

instance : DecidableEq Json := decEq

/-! ## Fields -/

namespace Fields

variable {β : Type}

def get? (name : String) : List (String × β) → Option β
  | [] => none
  | (k, v) :: rest => if k = name then some v else get? name rest

def insert (name : String) (value : β) : List (String × β) → List (String × β)
  | [] => [(name, value)]
  | (k, v) :: rest =>
    if k = name then (name, value) :: rest
    else if name < k then (name, value) :: (k, v) :: rest
    else (k, v) :: insert name value rest

def erase (name : String) : List (String × β) → List (String × β)
  | [] => []
  | (k, v) :: rest => if k = name then erase name rest else (k, v) :: erase name rest

/-- Of two fields with one name the later wins. -/
def ofList (fields : List (String × β)) : List (String × β) :=
  fields.foldl (fun acc (k, v) => insert k v acc) []

/-- In the order of the names, each name once. -/
def Sorted (fields : List (String × β)) : Prop :=
  fields.Pairwise fun a b => a.1 < b.1

@[simp] theorem get?_insert_self (name : String) (value : β) (fields : List (String × β)) :
    get? name (insert name value fields) = some value := by
  induction fields with
  | nil => simp [insert, get?]
  | cons field rest ih =>
    obtain ⟨k, v⟩ := field
    by_cases hk : k = name
    · simp [insert, get?, hk]
    · by_cases hlt : name < k <;> simp [insert, get?, hk, hlt, ih]

theorem get?_insert_of_ne {name other : String} (h : other ≠ name) (value : β) (fields : List (String × β)) :
    get? other (insert name value fields) = get? other fields := by
  induction fields with
  | nil => simp [insert, get?, Ne.symm h]
  | cons field rest ih =>
    obtain ⟨k, v⟩ := field
    by_cases hk : k = name
    · simp [insert, get?, hk, Ne.symm h]
    · by_cases hlt : name < k <;> simp [insert, get?, hk, hlt, ih, Ne.symm h]

@[simp] theorem get?_erase_self (name : String) (fields : List (String × β)) :
    get? name (erase name fields) = none := by
  induction fields with
  | nil => rfl
  | cons field rest ih =>
    obtain ⟨k, v⟩ := field
    by_cases hk : k = name <;> simp [erase, get?, hk, ih]

theorem get?_erase_of_ne {name other : String} (h : other ≠ name) (fields : List (String × β)) :
    get? other (erase name fields) = get? other fields := by
  induction fields with
  | nil => rfl
  | cons field rest ih =>
    obtain ⟨k, v⟩ := field
    by_cases hk : k = name
    · simp [erase, get?, hk, ih, Ne.symm h]
    · simp [erase, get?, hk, ih]

end Fields

def ofFields (fields : List (String × Json)) : Json :=
  obj (Fields.ofList fields)

mutual

/-- The value with the fields of all objects in order, of two with one name the later. -/
def sorted : Json → Json
  | null => null
  | bool b => bool b
  | num n => num n
  | str s => str s
  | arr items => arr (sortedItems items)
  | obj fields => ofFields (sortedFields fields)

def sortedItems : List Json → List Json
  | [] => []
  | v :: rest => v.sorted :: sortedItems rest

def sortedFields : List (String × Json) → List (String × Json)
  | [] => []
  | (name, v) :: rest => (name, v.sorted) :: sortedFields rest

end

def ofNat (n : Nat) : Json := num (.int n)

def ofInt (n : Int) : Json := num (.int n)

def ofOption (f : α → Json) : Option α → Json
  | none => null
  | some a => f a

def ofStrings (xs : List String) : Json := arr (xs.map str)

def fields? : Json → Option (List (String × Json))
  | obj fields => some fields
  | _ => none

def items? : Json → Option (List Json)
  | arr items => some items
  | _ => none

def string? : Json → Option String
  | str s => some s
  | _ => none

def bool? : Json → Option Bool
  | bool b => some b
  | _ => none

def int? : Json → Option Int
  | num (.int n) => some n
  | _ => none

def isNull : Json → Bool
  | null => true
  | _ => false

def get? (v : Json) (name : String) : Option Json :=
  match v with
  | obj fields => Fields.get? name fields
  | _ => none

@[simp] theorem get?_obj (fields : List (String × Json)) (name : String) :
    (obj fields).get? name = Fields.get? name fields := rfl

end Json

end ClusterGateway
