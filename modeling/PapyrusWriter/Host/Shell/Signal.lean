/-!
# Signals

Signals have numbers and names. Most end the process that gets them, unless it says what to do
instead.
-/

namespace PapyrusWriter.Shell

set_option autoImplicit false

def signalNames : List (String × Nat) :=
  [("EXIT", 0), ("HUP", 1), ("INT", 2), ("QUIT", 3), ("ILL", 4), ("TRAP", 5), ("ABRT", 6), ("BUS", 7),
    ("FPE", 8), ("KILL", 9), ("USR1", 10), ("SEGV", 11), ("USR2", 12), ("PIPE", 13), ("ALRM", 14),
    ("TERM", 15), ("STKFLT", 16), ("CHLD", 17), ("CONT", 18), ("STOP", 19), ("TSTP", 20),
    ("TTIN", 21), ("TTOU", 22), ("URG", 23), ("XCPU", 24), ("XFSZ", 25), ("VTALRM", 26),
    ("PROF", 27), ("WINCH", 28), ("IO", 29), ("PWR", 30), ("SYS", 31)]

/-- The signal of a name or number. -/
def signal? (text : String) : Option Nat :=
  match text.toNat? with
  | some number => if number < 65 then some number else none
  | none => signalNames.lookup (text.map Char.toUpper)

/-- The name of a signal. -/
def signalName (number : Nat) : String :=
  ((signalNames.find? (·.2 = number)).map Prod.fst).getD (toString number)

/-- The signal that a process cannot do anything about. -/
def killSignal : Nat := 9

/-- The signals that do nothing by themselves. -/
def harmlessSignals : List Nat := [0, 17, 18, 23, 28]

end PapyrusWriter.Shell
