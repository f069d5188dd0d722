import ClusterGateway.Decimal.Binary64

/-!
# Values of TOML

A table keeps its entries in the order in which they were written, each name once.
-/

namespace ClusterGateway.Toml

inductive Value where
  | string (s : String)
  | integer (n : Int)
  | float (x : Decimal.Binary64)
  | boolean (b : Bool)
  /-- A date, a time, or both, as written. -/
  | moment (text : String)
  | array (items : List Value)
  | table (entries : List (String × Value))
  deriving BEq, Repr

namespace Value

def string? : Value → Option String
  | string s => some s
  | _ => none

def boolean? : Value → Option Bool
  | boolean b => some b
  | _ => none

def integer? : Value → Option Int
  | integer n => some n
  | _ => none

def items? : Value → Option (List Value)
  | array items => some items
  | _ => none

def entries? : Value → Option (List (String × Value))
  | table entries => some entries
  | _ => none

end Value

end ClusterGateway.Toml
