import PapyrusWriter.Command.Source
/-!
# The command `transpile`

Transpiles one file to the output, or to a file: the one that is asked for, or one beside the
source. A script can give its output file another name in the same directory.
-/

namespace PapyrusWriter

set_option autoImplicit false

structure TranspileArguments where
  input : String
  output : Option String := none
  toStdout : Bool := false
  game : String := "SkyrimSE"

namespace TranspileArguments

/-- The output file, unless the script names another one. -/
def outputPath (arguments : TranspileArguments) : String :=
  arguments.output.getD (Source.defaultOutput arguments.input)

/-- Reads the input and transpiles it. -/
def result (arguments : TranspileArguments) : Command Transpiled := do
  Routine.report (.transpilingFile arguments.input)
  let tree ← Source.load arguments.input
  let options : TranspileOptions := ⟨arguments.game, Path.directory arguments.input, []⟩
  Source.transpile options tree

/-- The file to write a result to. -/
def target (directory output : String) (result : Transpiled) : Command String :=
  match result.outputFileName? with
  | some name => do
      Routine.report (.renamedOutput name)
      return Path.join directory (Text.stripQuotes name)
  | none => pure output

def run (arguments : TranspileArguments) : Command Unit := do
  unless ← Routine.request (.isFile arguments.input) do
    Routine.fail (.inputNotFound arguments.input)
  if arguments.toStdout then
    let result ← arguments.result
    Routine.request (.print result.code)
  else
    let output := arguments.outputPath
    let directory := Path.directory output
    unless ← Routine.request (.isDirectory directory) do
      Routine.fail (.outputDirectoryMissing directory)
    let result ← arguments.result
    let path ← target directory output result
    Source.writeOutput path result.code
    Routine.report (.transpiledFile arguments.input path)
    Routine.report .done

end TranspileArguments

end PapyrusWriter
