import PapyrusWriter.Command.Run
/-!
# The program

The real host answers the requests of a routine with the files of the machine. The log goes to the
error stream, a line for each event. This host starts no programs, so a build ends before its first
compilation.
-/

namespace PapyrusWriter.Host

set_option autoImplicit false

/-- The cause of an error, by its number. -/
def causeOf : IO.Error → SystemError
  | .noFileOrDirectory _ _ _ => .notFound
  | .permissionDenied _ code _ | .alreadyExists _ code _ | .inappropriateType _ code _
  | .invalidArgument _ code _ | .resourceExhausted _ code _ | .hardwareFault code _
  | .otherError code _ =>
      (SystemError.ofNumber? code.toNat).getD .permissionDenied
  | _ => .permissionDenied

/-- The result of an action, or the cause for which it failed. -/
def attempt {α : Type} (action : IO α) : IO (Except SystemError α) := do
  match ← action.toBaseIO with
  | .ok value => return .ok value
  | .error error => return .error (causeOf error)

/-- The kind of what a path leads to. -/
def kindOf? (path : String) : IO (Option IO.FS.FileType) := do
  match ← attempt ((← IO.currentDir) / path).metadata with
  | .ok data => return some data.type
  | .error _ => return none

def readText (path : String) : IO (Except SystemError String) := do
  match ← attempt (IO.FS.readBinFile path) with
  | .ok bytes =>
      match String.fromUTF8? bytes with
      | some text => return .ok text
      | none => return .error .invalidText
  | .error cause => return .error cause

/-- The names in a directory, in their order. -/
def namesIn (path : String) : IO (List String) := do
  let entries ← ((← IO.currentDir) / path).readDir
  return (entries.toList.map (·.fileName)).mergeSort fun a b => a ≤ b

/-- The files below a directory. Links are not followed. -/
partial def filesBelow (path : String) : IO (List Location) := do
  let mut found := []
  for name in ← namesIn path do
    let inner := path ++ "/" ++ name
    let data ← ((← IO.currentDir) / inner).symlinkMetadata
    match data.type with
    | .file => found := found ++ [[name]]
    | .dir => found := found ++ (← filesBelow inner).map (name :: ·)
    | _ => pure ()
  return found

def answer : (request : Request) → IO request.Answer
  | .isFile path => return (← kindOf? path) == some .file
  | .isDirectory path => return (← kindOf? path) == some .dir
  | .exists? path => return (← kindOf? path).isSome
  | .readText path => readText path
  | .writeText path text => attempt (IO.FS.writeFile path text)
  | .list path => attempt (namesIn path)
  | .createDirectory path => attempt (IO.FS.createDir path)
  | .filesBelow path => attempt (filesBelow path)
  | .run _ _ => return .error .notImplemented
  | .report event => IO.eprintln (event.level.name ++ " " ++ event.message)
  | .print text => IO.print text

/-- Runs a routine on this machine. -/
def run {ε α : Type} : Routine ε α → IO (Except ε α)
  | .done result => return result
  | .ask request next => do run (next (← answer request))

/-- How the program is called. -/
def usage : String :=
  "Usage: paperscript <COMMAND>\n\nCommands:\n" ++
    "  build [-n] [--project-dir DIR]                 build a project (requires a project.yaml)\n" ++
    "  transpile [-o FILE] [-s] [-g GAME] INPUT_FILE  transpiles a single file\n" ++
    "  init [-f] [--project-dir DIR]                  creates a new project.yaml\n" ++
    "  version                                        prints version information\n" ++
    "  help                                           prints this text\n"

end PapyrusWriter.Host

open PapyrusWriter in
def main (arguments : List String) : IO UInt32 := do
  match Invocation.parse arguments with
  | .error .help => do
      IO.print Host.usage
      return 0
  | .error .misuse => do
      IO.eprint Host.usage
      return 2
  | .ok invocation =>
      match ← Host.run invocation.main with
      | .ok code => return UInt32.ofNat code
      | .error _ => return 1
