import PapyrusWriter.Command.Failure
import PapyrusWriter.Host.Routine
import PapyrusWriter.Transpile
import PapyrusWriter.Tree.Read
/-!
# Source files

Reading a syntax tree from a file, transpiling it with the included files that it asks for, and
naming the output file.
-/

namespace PapyrusWriter

set_option autoImplicit false

/-- What commands do. -/
abbrev Command := Routine Failure

namespace Source

/-- The name of the output file of a source file: `Foo.pps.json` becomes `Foo.psc`. -/
def outputName (path : String) : String :=
  let base :=
    if Path.extension? path = some "json".toList then Path.withExtension path "" else path
  Path.withExtension (String.ofList ((Path.fileName? base).getD [])) "psc"

/-- The output file beside a source file. -/
def defaultOutput (path : String) : String :=
  Path.withFileName path (outputName path)

/-- Reads the syntax tree in a file; it must be without errors. -/
def load (path : String) : Command SyntaxTree := do
  let text ← Routine.orFail .inputUnreadable (← Routine.request (.readText path))
  let (tree, diagnostics) := SyntaxTree.read text
  diagnostics.forM fun diagnostic => Routine.report (.diagnostic diagnostic)
  match tree, diagnostics with
  | some tree, [] => pure tree
  | _, diagnostics =>
      let first := (diagnostics.head?.map Diagnostic.message).getD ""
      Routine.fail (.syntaxErrors path diagnostics.length first)

/-- The paths of the files that directives include. -/
def includePaths (root : String) (directives : List Directive) : List String :=
  directives.filterMap fun
    | .includeFile path => some (includePath root path)
    | .define _ _ => none

/-- Reads files, each with its outcome. -/
def readAll : List String → Command (List (String × Except SystemError String))
  | [] => pure []
  | path :: rest => do
      let outcome ← Routine.request (.readText path)
      return (path, outcome) :: (← readAll rest)

/-- A reader that knows the files read before. -/
def reader (known : List (String × Except SystemError String)) : FileReader := fun path =>
  (known.lookup path).getD (.error .notFound)

/-- Transpiles a tree with the files that it includes. -/
def transpile (options : TranspileOptions) (tree : SyntaxTree) : Command Transpiled := do
  let known ← readAll (includePaths options.includeRoot tree.directives)
  Routine.ofLogged .transpile (tree.transpile (reader known) options)

/-- Writes the text of an output file. -/
def writeOutput (path text : String) : Command Unit := do
  Routine.orFail .outputUnwritable (← Routine.request (.writeText path text))

end Source

end PapyrusWriter
