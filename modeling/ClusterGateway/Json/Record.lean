import ClusterGateway.Json.Basic

/-!
# Records and tags in JSON

A record is read from an object, where fields it does not know are passed over, or from an
array of its fields in order, where the last ones may be missing. A tag without content is a
string, or an object with the tag as its only field and null as the value.
-/

namespace ClusterGateway.Json

def record? (names : List String) (v : Json) : Option (String → Option Json) :=
  match v with
  | obj fields => some fun name => Fields.get? name fields
  | arr items => if items.length ≤ names.length then some fun name => items[names.idxOf name]? else none
  | _ => none

def tag? : Json → Option String
  | str s => some s
  | obj [(s, null)] => some s
  | _ => none

def single? : Json → Option (String × Json)
  | obj [field] => some field
  | _ => none

def optional? (read : Json → Option α) : Option Json → Option (Option α)
  | none => some none
  | some null => some none
  | some v => (read v).map some

def natBelow? (bound : Nat) (v : Json) : Option Nat :=
  match v with
  | num (.int n) => if 0 ≤ n ∧ n.toNat < bound then some n.toNat else none
  | _ => none

def uint16? (v : Json) : Option UInt16 :=
  (natBelow? (Nat.pow 2 16) v).map UInt16.ofNat

def uint64? (v : Json) : Option Nat :=
  natBelow? (Nat.pow 2 64) v

theorem natBelow?_ofNat {n bound : Nat} (h : n < bound) : (ofNat n).natBelow? bound = some n := by
  simp [ofNat, natBelow?, h]

@[simp] theorem uint16?_ofNat (n : UInt16) : (ofNat n.toNat).uint16? = some n := by
  rw [uint16?, natBelow?_ofNat n.toNat_lt, Option.map_some, UInt16.ofNat_toNat]

theorem uint64?_ofNat {n : Nat} (h : n < Nat.pow 2 64) : (ofNat n).uint64? = some n :=
  natBelow?_ofNat h

end ClusterGateway.Json
