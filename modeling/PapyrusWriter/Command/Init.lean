import PapyrusWriter.Command.Source
import PapyrusWriter.Manifest
/-!
# The command `init`

Makes a directory a project: it gets a manifest and a source folder. A directory with something in
it is left alone unless that is forced, and a project always is.
-/

namespace PapyrusWriter

set_option autoImplicit false

structure InitArguments where
  force : Bool := false
  project : String := "."

namespace InitArguments

/-- Creates the source folder of a project, if there is none. -/
def createSourceFolder (project : String) : Command Unit := do
  let folder := Path.join project "src"
  unless ← Routine.request (.isDirectory folder) do
    Routine.report .creatingSourceFolder
    Routine.orFail .initFailed (← Routine.request (.createDirectory folder))

def run (arguments : InitArguments) : Command Unit := do
  let path := Path.join arguments.project Manifest.fileName
  if ← Routine.request (.exists? path) then Routine.fail .projectExists
  let names ← Routine.orFail .initFailed (← Routine.request (.list arguments.project))
  if !names.isEmpty && !arguments.force then Routine.fail .directoryNotEmpty
  Routine.report .creatingProject
  createSourceFolder arguments.project
  Routine.orFail .manifestUnwritable (← Routine.request (.writeText path Manifest.scaffold.yaml))
  Routine.report .projectCreated
  Routine.report .relativePaths
  Routine.report .checkManifest

end InitArguments

end PapyrusWriter
