import PapyrusWriter.Host.FileSystem
/-!
# A plain machine

The files that a machine has before anyone works on it: the null device, the programs of the system,
and an empty directory to work in.
-/

namespace PapyrusWriter.Machine

set_option autoImplicit false

/-- The programs of the system. -/
def programNames : List String :=
  ["[", "basename", "bash", "cat", "chmod", "cp", "cut", "dash", "dirname", "echo", "egrep", "env",
    "expr", "false", "grep", "head", "kill", "ln", "ls", "mkdir", "mv", "printf", "pwd", "rev", "rm",
    "rmdir", "sed", "seq", "sh", "sleep", "sort", "sync", "tac", "tail", "tee", "test", "touch",
    "tr", "true", "uname", "uniq", "wc", "whoami"]

/-- A program in machine code, of which only the first bytes matter. -/
def program : Node := .file (.binary [0x7F, 0x45, 0x4C, 0x46, 0x80]) true

def programFolder : Node :=
  programNames.foldl (fun folder name => folder.set [name] program) (.directory [])

/-- The directory to work in. -/
def workplace : Location := ["tmp", "work"]

def files : FileSystem where
  top :=
    (((((Node.directory []).set ["dev", "null"] .device).set ["usr", "bin"] programFolder).set ["bin"]
      (.link "usr/bin")).set ["etc"] (.directory [])).set workplace (.directory [])
  here := workplace

end PapyrusWriter.Machine
