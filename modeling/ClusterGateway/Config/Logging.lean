import ClusterGateway.Client.Timestamp

/-!
# Where the log goes

The level is a list of directives, each a level, a target, or a target with its level. The files
of a log are named for the hour or the day in which they begin, or are one file only.
-/

namespace ClusterGateway

inductive Rotation where
  | hourly
  | daily
  | never
  deriving DecidableEq, Repr

def Rotation.name : Rotation → String
  | hourly => "hourly"
  | daily => "daily"
  | never => "never"

def Rotation.ofName? (s : String) : Option Rotation :=
  [hourly, daily, never].find? fun r => r.name == s

structure Logging where
  level : String
  directory : Option String
  rotation : Rotation
  json : Bool
  deriving DecidableEq, Repr

namespace Logging

def standard : Logging := ⟨"info", none, .daily, false⟩

/-! ## Directives -/

inductive FilterError where
  | invalidDirective
  | invalidLevel
  deriving DecidableEq, Repr

def FilterError.message : FilterError → String
  | invalidDirective => "invalid filter directive"
  | invalidLevel =>
    "error parsing level filter: expected one of \"off\", \"error\", \"warn\", " ++
      "\"info\", \"debug\", \"trace\", or a number 0-5"

def isLevel (s : String) : Bool :=
  ["off", "error", "warn", "info", "debug", "trace", "0", "1", "2", "3", "4", "5"].contains (Text.asciiLower s)

inductive FilterPhase where
  | start
  | target
  | span
  | fields
  | afterFields
  | afterSpan
  | level (seen : List Char)

def isTargetStart (c : Char) : Bool :=
  c.isAlphanum || c == '-' || c == ':' || c == '_' || 0x80 ≤ c.toNat

def filterStep? (phase : FilterPhase) (c : Char) : Option FilterPhase :=
  match phase with
  | .start => if c = '[' then some .span else if isTargetStart c then some .target else none
  | .target => if c = '=' then some (.level []) else if c = '[' then some .span else some .target
  | .span => if c = ']' then some .afterSpan else if c = '\x7b' then some .fields else some .span
  | .fields => if c = '\x7d' then some .afterFields else some .fields
  | .afterFields => if c = ']' then some .afterSpan else none
  | .afterSpan => if c = '=' then some (.level []) else none
  | .level seen => some (.level (c :: seen))

def directiveError? (cs : List Char) : Option FilterError :=
  match cs.foldlM filterStep? .start with
  | none | some .start | some .span | some .fields | some .afterFields => some .invalidDirective
  | some .target | some .afterSpan => none
  | some (.level seen) =>
    if seen.isEmpty || isLevel (String.ofList seen.reverse) then none else some .invalidLevel

def filterError? (directives : String) : Option FilterError :=
  ((directives.splitOn ",").filter fun d => !d.isEmpty).findSome? fun d =>
    directiveError? (Text.trim d).toList

/-! ## Files -/

def fileName (rotation : Rotation) (t : Timestamp) : String :=
  let d := Timestamp.dateOfDay t.day
  let day := s!"{Timestamp.yearText d.year}-{Timestamp.padded 2 d.month}-{Timestamp.padded 2 d.day}"
  match rotation with
  | .hourly => s!"kubegate.log.{day}-{Timestamp.padded 2 (t.second / 3600)}"
  | .daily => s!"kubegate.log.{day}"
  | .never => "kubegate.log"

end Logging

end ClusterGateway
