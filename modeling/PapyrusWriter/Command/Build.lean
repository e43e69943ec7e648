import PapyrusWriter.Command.Source
import PapyrusWriter.Manifest
/-!
# The command `build`

Builds a project: finds the source files that the manifest asks for, transpiles each of them into
the script folder, and runs the engine's compiler on the result. A script that does not compile is
counted and does not end the build.
-/

namespace PapyrusWriter

set_option autoImplicit false

structure BuildArguments where
  noCompile : Bool := false
  project : String := "."

namespace Build

/-- Reads the manifest of a project. -/
def loadManifest (project : String) : Command Manifest := do
  let path := Path.join project Manifest.fileName
  unless ← Routine.request (.isFile path) do Routine.fail .projectNotFound
  let text ← Routine.orFail .manifestUnreadable (← Routine.request (.readText path))
  match Manifest.read text with
  | .ok manifest => pure manifest
  | .error error => Routine.fail (.manifestInvalid error)

def requireDirectory (what path : String) : Command Unit := do
  unless ← Routine.request (.isDirectory path) do Routine.fail (.pathNotFound what path)

def requireFile (what path : String) : Command Unit := do
  unless ← Routine.request (.isFile path) do Routine.fail (.pathNotFound what path)

/-- The places that the build needs. -/
def requirePlaces (places : Manifest.Places) (noCompile : Bool) : Command Unit := do
  requireDirectory "the script directory" places.scriptFolder
  requireDirectory "the script output directory" places.scriptOutput
  unless noCompile do
    requireFile "the papyrus flags file" places.flags
    requireFile "the papyrus compiler executable" places.compiler

/-- A file below a directory, as patterns see it. -/
def relativePath (location : Location) : String :=
  Text.replaceAll "\\" "/" ("/".intercalate location)

/-- The path of a file below a directory. -/
def pathBelow (root : String) (location : Location) : String :=
  location.foldl Path.join root

/-- The files below a directory whose relative paths are accepted, in order. -/
def discoverBy (root : String) (accepts : String → Bool) : Command (List String) := do
  let locations ← Routine.orFail .sourceScan (← Routine.request (.filesBelow root))
  return (locations.filter fun location => accepts (relativePath location)).map (pathBelow root)

/-- The files below a directory whose relative paths a pattern accepts. -/
def discover (root pattern : String) : Command (List String) :=
  match Glob.parse pattern with
  | .error fault => Routine.fail (.sourcePattern fault)
  | .ok glob => discoverBy root glob.accepts

/-- The arguments of the compiler for a script. -/
def compilerArguments (places : Manifest.Places) (script : String) : List String :=
  [script, "-i=" ++ places.scriptFolder, "-o=" ++ places.scriptOutput, "-f=" ++ places.flags, "-q"]

/-- Whether a line has more than white space. -/
def isFilled (line : String) : Bool := Text.trim line ≠ ""

/-- What is reported of a run of the compiler. -/
def compilerEvents (run : ProgramRun) : List Event :=
  let output := (Text.lines (Text.ofBytesLossy run.output)).filter isFilled
  output.map Event.compilerOutput ++
    if run.succeeded then []
    else
      .compilationFailed :: (Text.lines (Text.ofBytesLossy run.errors)).map Event.compilerError

/-- Runs the compiler on a script; tells whether it succeeded. -/
def compile (places : Manifest.Places) (script : String) : Command Bool := do
  Routine.report (.compiling script)
  let run ← Routine.orFail .compilerUnavailable
    (← Routine.request (.run places.compiler (compilerArguments places script)))
  (compilerEvents run).forM Routine.report
  return run.succeeded

/-- What all sources of a build have in common. -/
structure Plan where
  places : Manifest.Places
  game : String
  defines : List (String × String)
  noCompile : Bool

/-- Transpiles a source and compiles the result; tells whether it compiled. -/
def buildSource (plan : Plan) (source : String) : Command Bool := do
  Routine.report (.transpilingSource source)
  let tree ← Source.load source
  let result ← Source.transpile ⟨plan.game, Path.directory source, plan.defines⟩ tree
  let output := Path.join plan.places.scriptFolder (Source.outputName source)
  Source.writeOutput output result.code
  Routine.report (.transpiledSource source output)
  if plan.noCompile then pure true else compile plan.places output

/-- Builds sources in order; gives the number of those that did not compile. -/
def buildAll (plan : Plan) : List String → Command Nat
  | [] => pure 0
  | source :: rest => do
      let compiled ← buildSource plan source
      let failed ← buildAll plan rest
      return if compiled then failed else failed + 1

end Build

open Build in
def BuildArguments.run (arguments : BuildArguments) : Command Unit := do
  let manifest ← loadManifest arguments.project
  let places := manifest.places arguments.project
  requirePlaces places arguments.noCompile
  let sources ← discover arguments.project manifest.sourceGlob
  if sources.isEmpty then Routine.fail .noSources
  Routine.report (.building manifest.projectName manifest.projectVersion)
  match manifest.defines with
  | .error name => Routine.fail (.defineNotScalar name)
  | .ok defines =>
      let failed ← buildAll ⟨places, manifest.game, defines, arguments.noCompile⟩ sources
      if 0 < failed then Routine.fail (.compilationFailed failed sources.length)
      Routine.report .done

end PapyrusWriter
