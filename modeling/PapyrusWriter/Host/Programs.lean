import PapyrusWriter.Host.Shell.Eval
import PapyrusWriter.Host.World
/-!
# The programs of a machine

What running a file does: programs of the system are known, scripts are run by the program that they
name, and other files cannot be run.
-/

namespace PapyrusWriter.Machine

set_option autoImplicit false

/-- A bound for the steps of a program. -/
def stepLimit : Nat := 100000

/-- Runs a file as a program. -/
def programs : ProgramModel := fun files path arguments =>
  match Shell.programOf Shell.interpreterLimit files path with
  | .error cause => .error cause
  | .ok launch =>
      let start : Shell.Process := { files, name := launch.called, arguments := [] }
      let launch := { launch with arguments := launch.arguments ++ arguments }
      let finish (succeeded : Bool) (p : Shell.Process) : ProgramRun × FileSystem :=
        let output (number : Nat) := (p.buffers.getD number []).reverse
        (⟨succeeded, output 0, output 1⟩, { p.files with here := files.here })
      match Shell.runProgram stepLimit launch start with
      | .ok status p => .ok (finish (status == 0) p)
      | .error (.exit status) p => .ok (finish (status == 0) p)
      | .error _ p => .ok (finish false p)

end PapyrusWriter.Machine
