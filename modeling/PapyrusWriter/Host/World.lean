import PapyrusWriter.Host.FileSystem
import PapyrusWriter.Host.Routine
/-!
# A modelled host

A world holds files, says what programs do, and keeps what was reported and printed. Running a
routine in a world gives its outcome and the world after it.

What a routine asks of the files fails as their tree says, and besides as the host pleases: it may
refuse to read, list, create or write, for any cause. A request that fails changes nothing. Whether
a path leads to something is always told as it is.
-/

namespace PapyrusWriter

set_option autoImplicit false

/-- What a program does when it is run: it cannot be started, or it ends and may have changed files.
-/
abbrev ProgramModel :=
  FileSystem → String → List String → Except SystemError (ProgramRun × FileSystem)

/-- What a host does not allow though the files would, and why: a right is missing, say, or the disk
is full. -/
abbrev RefusalModel := FileSystem → Request → Option SystemError

/-- Files, and what the host refuses to do with them. -/
structure Storage where
  files : FileSystem
  refusals : RefusalModel := fun _ _ => none

namespace Storage

variable {α : Type}

/-- What the files give for a request, unless the host refuses it. -/
def access (storage : Storage) (request : Request) (outcome : Except SystemError α) :
    Except SystemError α :=
  match storage.refusals storage.files request with
  | some cause => .error cause
  | none => outcome

def readText (storage : Storage) (path : String) : Except SystemError String :=
  storage.access (.readText path) (storage.files.readText path)

def write (storage : Storage) (path text : String) : Except SystemError FileSystem :=
  storage.access (.writeText path text) (storage.files.write path (.text text))

def list (storage : Storage) (path : String) : Except SystemError (List String) :=
  storage.access (.list path) (storage.files.list path)

def createDirectory (storage : Storage) (path : String) : Except SystemError FileSystem :=
  storage.access (.createDirectory path) (storage.files.createDirectory path)

def filesBelow (storage : Storage) (path : String) : Except SystemError (List Location) :=
  storage.access (.filesBelow path) (storage.files.filesBelow path)

/-- What is not refused is as the files say. -/
theorem of_access {storage : Storage} {request : Request} {outcome : Except SystemError α} {a : α}
    (granted : storage.access request outcome = .ok a) : outcome = .ok a := by
  unfold access at granted
  split at granted
  · cases granted
  · exact granted

end Storage

structure World extends Storage where
  programs : ProgramModel
  log : List Event := []
  printed : String := ""

namespace World

/-- The answer to a request and the world after it. -/
def answer (world : World) : (request : Request) → request.Answer × World
  | .isFile path => (world.files.isFile path, world)
  | .isDirectory path => (world.files.isDirectory path, world)
  | .exists? path => (world.files.exists? path, world)
  | .readText path => (world.readText path, world)
  | .writeText path text =>
      match world.write path text with
      | .ok files => (.ok (), { world with files })
      | .error cause => (.error cause, world)
  | .list path => (world.list path, world)
  | .createDirectory path =>
      match world.createDirectory path with
      | .ok files => (.ok (), { world with files })
      | .error cause => (.error cause, world)
  | .filesBelow path => (world.filesBelow path, world)
  | .run program arguments =>
      match world.programs world.files program arguments with
      | .ok (run, files) => (.ok run, { world with files })
      | .error cause => (.error cause, world)
  | .report event => ((), { world with log := world.log ++ [event] })
  | .print text => ((), { world with printed := world.printed ++ text })

end World

namespace Routine

variable {ε α β : Type}

/-- Runs a routine in a world. -/
def run : Routine ε α → World → Except ε α × World
  | .done result, world => (result, world)
  | .ask request next, world =>
      let (answer, after) := world.answer request
      (next answer).run after

theorem run_bind (first : Routine ε α) (next : α → Routine ε β) (world : World) :
    (first >>= next).run world =
      match first.run world with
      | (.ok a, after) => (next a).run after
      | (.error error, after) => (.error error, after) := by
  show (first.bind next).run world = _
  induction first generalizing world with
  | done result => cases result <;> rfl
  | ask request rest ih => exact ih _ _

end Routine

end PapyrusWriter
