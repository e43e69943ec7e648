import PapyrusWriter.Command.Arguments
import PapyrusWriter.Command.Build
import PapyrusWriter.Command.Init
import PapyrusWriter.Command.TranspileFile
/-!
# The command line

The first argument names a command, the others are its arguments. A command ends with exit code 0,
or it fails, which is reported last, with exit code 1.
-/

namespace PapyrusWriter

set_option autoImplicit false

/-- A command with its arguments. -/
inductive Invocation where
  | build (arguments : BuildArguments)
  | transpile (arguments : TranspileArguments)
  | init (arguments : InitArguments)
  | version

namespace Invocation

def versionNumber : String := "0.1.0"

def buildSpec : CommandSpec where
  options := [{ name := "no-compile", letter := some 'n' },
    { name := "project-dir", letter := none, takesValue := true }]

def transpileSpec : CommandSpec where
  options := [{ name := "output", letter := some 'o', takesValue := true },
    { name := "stdout", letter := some 's' },
    { name := "game", letter := some 'g', takesValue := true, allowsEmpty := true }]
  hasOperand := true

def initSpec : CommandSpec where
  options := [{ name := "force", letter := some 'f' },
    { name := "project-dir", letter := none, takesValue := true }]

def versionSpec : CommandSpec where
  options := []

def build? (arguments : List String) : Except Refusal Invocation := do
  let given ← buildSpec.parse arguments
  return .build ⟨given.has "no-compile", (given.value? "project-dir").getD "."⟩

def transpile? (arguments : List String) : Except Refusal Invocation := do
  let given ← transpileSpec.parse arguments
  match given.operand with
  | none => throw .misuse
  | some input =>
      return .transpile ⟨input, given.value? "output", given.has "stdout",
        (given.value? "game").getD Manifest.defaultGame⟩

def init? (arguments : List String) : Except Refusal Invocation := do
  let given ← initSpec.parse arguments
  return .init ⟨given.has "force", (given.value? "project-dir").getD "."⟩

def version? (arguments : List String) : Except Refusal Invocation := do
  let _ ← versionSpec.parse arguments
  return .version

/-- The commands by name. -/
def commands : List (String × (List String → Except Refusal Invocation)) :=
  [("build", build?), ("transpile", transpile?), ("init", init?), ("version", version?)]

/-- Help on the whole, or on one command. -/
def help : List String → Refusal
  | [] => .help
  | [name] => if name = "help" || (commands.lookup name).isSome then .help else .misuse
  | _ => .misuse

/-- Whether an argument before the command asks for help. -/
def asksHelp (text : String) : Bool :=
  match text.toList with
  | '-' :: 'h' :: _ => true
  | _ => text = "--help"

/-- The command that arguments ask for. -/
def parse : List String → Except Refusal Invocation
  | [] => .error .misuse
  | name :: rest =>
      if name = "help" then .error (help rest)
      else if asksHelp name then .error .help
      else
        match commands.lookup name with
        | some command => command rest
        | none => .error .misuse

def run : Invocation → Command Unit
  | .build arguments => arguments.run
  | .transpile arguments => arguments.run
  | .init arguments => arguments.run
  | .version => do
      Routine.report (.version "CLI" versionNumber)
      Routine.report (.version "Compiler" versionNumber)

/-- Reports a failure, if there is one, and gives the exit code. -/
def exitCode : Except Failure Unit → Routine Failure Nat
  | .ok _ => pure 0
  | .error failure => do
      Routine.report failure.event
      return 1

end Invocation

/-- The outcome of a routine as a value. -/
def Routine.outcome {ε α : Type} : Routine ε α → Routine ε (Except ε α)
  | .done result => .done (.ok result)
  | .ask request next => .ask request fun answer => (next answer).outcome

/-- Runs a command to its exit code. -/
def Invocation.main (invocation : Invocation) : Routine Failure Nat := do
  Invocation.exitCode (← invocation.run.outcome)

end PapyrusWriter
