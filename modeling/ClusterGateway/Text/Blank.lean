/-!
# Blank and control characters

Blank is the Unicode property `White_Space`; control is the general category `Cc`.
`trim` removes blanks from both ends and nothing else.
-/

namespace ClusterGateway.Text

def isBlank (c : Char) : Bool :=
  let n := c.toNat
  (9 ≤ n && n ≤ 13) || n == 0x20 || n == 0x85 || n == 0xA0 || n == 0x1680 ||
    (0x2000 ≤ n && n ≤ 0x200A) || n == 0x2028 || n == 0x2029 || n == 0x202F || n == 0x205F || n == 0x3000

def isControl (c : Char) : Bool :=
  let n := c.toNat
  n < 0x20 || (0x7F ≤ n && n ≤ 0x9F)

def trimStart (cs : List Char) : List Char :=
  cs.dropWhile isBlank

def trimEnd (cs : List Char) : List Char :=
  (cs.reverse.dropWhile isBlank).reverse

def trim (s : String) : String :=
  String.ofList (trimEnd (trimStart s.toList))

/-- Changes `A` to `Z` only. -/
def asciiLower (s : String) : String :=
  s.map Char.toLower

def isBlankText (s : String) : Bool :=
  s.toList.all isBlank

def nonBlank? (s : Option String) : Option String :=
  match s with
  | none => none
  | some s => if (trim s).isEmpty then none else some (trim s)

def contains (s part : String) : Bool :=
  go part.toList s.toList
where
  go (part : List Char) : List Char → Bool
    | [] => part.isEmpty
    | c :: cs => part.isPrefixOf (c :: cs) || go part cs

end ClusterGateway.Text
