/-!
# Signals

Numbers and names, and which signals end a process that does nothing about them.
-/

namespace ClusterGateway.Shell.Signal

def names : List (Nat × String) :=
  [(1, "HUP"), (2, "INT"), (3, "QUIT"), (4, "ILL"), (5, "TRAP"), (6, "ABRT"), (7, "BUS"), (8, "FPE"),
    (9, "KILL"), (10, "USR1"), (11, "SEGV"), (12, "USR2"), (13, "PIPE"), (14, "ALRM"), (15, "TERM"),
    (16, "STKFLT"), (17, "CHLD"), (18, "CONT"), (19, "STOP"), (20, "TSTP"), (21, "TTIN"), (22, "TTOU"),
    (23, "URG"), (24, "XCPU"), (25, "XFSZ"), (26, "VTALRM"), (27, "PROF"), (28, "WINCH"), (29, "IO"),
    (30, "PWR"), (31, "SYS")]

def name? (n : Nat) : Option String :=
  (names.find? fun (m, _) => m == n).map Prod.snd

def number? (s : String) : Option Nat :=
  let s := if s.startsWith "SIG" then (s.drop 3).toString else s
  if !s.isEmpty && s.all Char.isDigit then s.toNat?
  else (names.find? fun (_, m) => m == s).map Prod.fst

def isIgnored (n : Nat) : Bool := [0, 17, 18, 23, 28].contains n

def stops (n : Nat) : Bool := [19, 20, 21, 22].contains n

end ClusterGateway.Shell.Signal
