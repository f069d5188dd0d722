import ClusterGateway.Text.Blank

/-!
# Moments on the wire

A moment is written as a date, a time of day and an offset. Blanks may stand around the parts,
and fractions of a second are read and dropped. It is written back in UTC.
-/

namespace ClusterGateway

structure Timestamp where
  /-- Days since 1970-01-01. -/
  day : Int
  second : Nat
  /-- A second that was put in after this one. -/
  leap : Bool
  deriving DecidableEq, Repr

namespace Timestamp

/-! ## Dates -/

def isLeapYear (y : Int) : Bool :=
  y % 4 == 0 && (y % 100 != 0 || y % 400 == 0)

def monthLength (y : Int) (m : Nat) : Nat :=
  if m = 2 then if isLeapYear y then 29 else 28
  else if m = 4 ∨ m = 6 ∨ m = 9 ∨ m = 11 then 30
  else 31

/-- The year starts in March here, so that a leap day is its last. -/
def dayOfDate (y : Int) (m d : Nat) : Int :=
  let y := if m ≤ 2 then y - 1 else y
  let m : Int := ((m + 9) % 12 : Nat)
  365 * y + y / 4 - y / 100 + y / 400 + (153 * m + 2) / 5 + d - 719469

structure Date where
  year : Int
  month : Nat
  day : Nat
  deriving DecidableEq, Repr

def dateOfDay (n : Int) : Date :=
  let z := n + 719468
  let era := z / 146097
  let dayOfEra := z % 146097
  let yearOfEra := (dayOfEra - dayOfEra / 1460 + dayOfEra / 36524 - dayOfEra / 146096) / 365
  let dayOfYear := dayOfEra - (365 * yearOfEra + yearOfEra / 4 - yearOfEra / 100)
  let m := (5 * dayOfYear + 2) / 153
  let day := dayOfYear - (153 * m + 2) / 5 + 1
  let month := if m < 10 then m + 3 else m - 9
  ⟨yearOfEra + era * 400 + (if month ≤ 2 then 1 else 0), month.toNat, day.toNat⟩

def isKnownYear (y : Int) : Bool := -262143 ≤ y && y ≤ 262142

/-! ## Reading -/

def value (ds : List Char) : Nat := ds.foldl (fun n c => n * 10 + (c.toNat - 48)) 0

/-- One digit or more, but not more than `width`, after blanks. -/
def number? (width : Nat) (cs : List Char) : Option (Nat × List Char) :=
  let cs := Text.trimStart cs
  let ds := (cs.take width).takeWhile Char.isDigit
  if ds.isEmpty then none else some (value ds, cs.drop ds.length)

def year? (cs : List Char) : Option (Int × List Char) :=
  match Text.trimStart cs with
  | '-' :: cs => (digits? cs).map fun (n, cs) => (-(n : Int), cs)
  | '+' :: cs => (digits? cs).map fun (n, cs) => ((n : Int), cs)
  | cs => (number? 4 cs).map fun (n, cs) => ((n : Int), cs)
where
  digits? (cs : List Char) : Option (Nat × List Char) :=
    let ds := cs.takeWhile Char.isDigit
    if ds.isEmpty then none else some (value ds, cs.drop ds.length)

def literal? (c : Char) (cs : List Char) : Option (List Char) :=
  match Text.trimStart cs with
  | d :: cs => if d = c then some cs else none
  | [] => none

def separator? : List Char → Option (List Char)
  | c :: cs => if c = 'T' ∨ c = 't' ∨ c = ' ' then some cs else none
  | [] => none

def fraction? : List Char → Option (List Char)
  | '.' :: cs => if (cs.head?.map Char.isDigit).getD false then some (cs.dropWhile Char.isDigit) else none
  | cs => some cs

def twoDigits? (top : Char) : List Char → Option (Nat × List Char)
  | a :: b :: cs => if a.isDigit && b.isDigit && decide (a ≤ top) then some (value [a, b], cs) else none
  | _ => none

def offsetSize? (cs : List Char) : Option (Nat × List Char) := do
  let (hours, cs) ← twoDigits? '9' cs
  let (minutes, cs) ← twoDigits? '5' (cs.dropWhile fun c => c == ':' || Text.isBlank c)
  let size := hours * 3600 + minutes * 60
  if size < 86400 then some (size, cs) else none

def offset? (cs : List Char) : Option (Int × List Char) :=
  match cs with
  | 'Z' :: cs | 'z' :: cs => some (0, cs)
  | '+' :: cs => (offsetSize? cs).map fun (n, cs) => ((n : Int), cs)
  | '-' :: cs => (offsetSize? cs).map fun (n, cs) => (-(n : Int), cs)
  | c :: cs =>
    if c.toNat = 0x2212 then (offsetSize? cs).map fun (n, cs) => (-(n : Int), cs)
    else if (c :: cs.take 2).map Char.toUpper = ['U', 'T', 'C'] then some (0, cs.drop 2)
    else none
  | [] => none

def parse? (s : String) : Option Timestamp := do
  let (year, cs) ← year? s.toList
  let (month, cs) ← number? 2 (← literal? '-' cs)
  let (day, cs) ← number? 2 (← literal? '-' cs)
  let (hour, cs) ← number? 2 (← separator? cs)
  let (minute, cs) ← number? 2 (← literal? ':' cs)
  let (second, cs) ← number? 2 (← literal? ':' cs)
  let (offset, cs) ← offset? (Text.trimStart (← fraction? cs))
  if !(Text.trimStart cs).isEmpty then none
  if !isKnownYear year || month < 1 || 12 < month || day < 1 || monthLength year month < day then none
  if 23 < hour || 59 < minute || 60 < second then none
  let seconds : Int := (hour * 3600 + minute * 60 + min second 59 : Nat) - offset
  let day := dayOfDate year month day + seconds / 86400
  if isKnownYear (dateOfDay day).year then some ⟨day, (seconds % 86400).toNat, second == 60⟩ else none

/-! ## Writing -/

def padded (width n : Nat) : String :=
  let ds := Nat.toDigits 10 n
  String.ofList (List.replicate (width - ds.length) '0' ++ ds)

def yearText (y : Int) : String :=
  if y < 0 then "-" ++ padded 4 y.natAbs
  else if 9999 < y then "+" ++ padded 4 y.natAbs
  else padded 4 y.natAbs

def render (t : Timestamp) : String :=
  let d := dateOfDay t.day
  let second := t.second % 60 + (if t.leap then 1 else 0)
  s!"{yearText d.year}-{padded 2 d.month}-{padded 2 d.day}T" ++
    s!"{padded 2 (t.second / 3600)}:{padded 2 (t.second / 60 % 60)}:{padded 2 second}Z"

end Timestamp

end ClusterGateway
