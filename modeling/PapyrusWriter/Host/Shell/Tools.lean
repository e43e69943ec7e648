import PapyrusWriter.Host.Shell.Tool.Condition
import PapyrusWriter.Host.Shell.Tool.Entries
import PapyrusWriter.Host.Shell.Tool.Format
import PapyrusWriter.Host.Shell.Tool.Lines
import PapyrusWriter.Host.Shell.Tool.Search
/-!
# The programs of the system by name
-/

namespace PapyrusWriter.Shell.Tool

set_option autoImplicit false

/-- A program that only has a status. -/
def silent (status : Nat) : Tool := fun _ => pure status

/-- A program that writes one line. -/
def saying (text : String) : Tool := fun _ => do
  Run.write 1 (text ++ "\n")
  return 0

/-- Waits for a number of seconds, for which no time passes here. -/
def sleep : Tool := fun arguments => do
  if arguments = [] then return ← missingOperand
  forAll (fun argument => do
    let number := argument.toList.filter fun c => c ≠ '.'
    if number.head?.any Char.isDigit && number.dropLast.all Char.isDigit then return 0
    Run.complainBy ("invalid time interval '" ++ argument ++ "'")
    tryHelp
    return 1) arguments

/-- The programs that are files of the system. -/
def byName : List (String × Tool) :=
  [("[", bracket), ("basename", basename), ("cat", knowing "AbeEnstTuv" 1 cat), ("chmod", chmod),
    ("cp", knowing "abdfHilLnprst:uvxPRS:TZ" 1 cp), ("cut", knowing "b:c:d:f:nsz" 1 cut),
    ("dirname", dirname), ("echo", echoProgram),
    ("egrep", helping grepHelp grepOptions 2 (grepAs true)), ("expr", expr),
    ("false", silent 1), ("grep", helping grepHelp grepOptions 2 (grepAs false)),
    ("head", knowing "c:n:qvz0123456789" 1 head),
    ("ln", knowing "bdfFinrsvLPS:t:T" 1 ln),
    ("ls", knowing "abcdfghiklmnopqrstuvw:xABCDFGHI:LNQRST:UXZ1" 2 ls),
    ("mkdir", knowing "m:pvZ" 1 mkdir), ("mv", knowing "bfint:uvS:TZ" 1 mv), ("printf", printf),
    ("pwd", pwd), ("rev", rev), ("rm", knowing "dfirvIR" 1 rm), ("rmdir", knowing "pv" 1 rmdir),
    ("sed", sed), ("seq", seq), ("sleep", sleep),
    ("sort", knowing "bcCdfghik:mMno:rRsS:t:T:uVy:z" 2 sort), ("sync", silent 0),
    ("tac", knowing "brs:" 1 tac), ("tail", knowing "c:n:fFqs:vz0123456789" 1 tail),
    ("tee", knowing "aip" 1 tee), ("test", test), ("touch", knowing "acd:fhmr:t:" 1 touch),
    ("tr", knowing "AcCdst" 1 tr), ("true", silent 0), ("uname", saying "Linux"),
    ("uniq", knowing "0123456789Dcdf:is:uw:z" 1 uniq), ("wc", knowing "clLmw" 1 wc),
    ("whoami", saying "root")]

/-- The commands of the shell that are like programs. -/
def builtins : List (String × Tool) :=
  [("[", bracket), ("echo", echo), ("false", silent 1), ("printf", printf), ("pwd", pwd),
    ("test", test), ("true", silent 0)]

end PapyrusWriter.Shell.Tool
