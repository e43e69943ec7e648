import PapyrusWriter.Host.Walk
/-!
# The file system

A tree of files and the directory that relative paths start from.
-/

namespace PapyrusWriter

set_option autoImplicit false

structure FileSystem where
  top : Node
  here : Location
deriving Inhabited

namespace FileSystem

/-- Where a path leads. -/
def locate (files : FileSystem) (purpose : Purpose) (path : String) : Except SystemError Spot :=
  if path.toList.contains '\x00' then .error .nulInPath
  else if path = "" then .error .notFound
  else if Walk.pathLimit < path.utf8ByteSize then .error .nameTooLong
  else
    Walk.along files.top purpose Walk.linkLimit (Walk.start files.here path) (Walk.pieces path)

/-- The node that a path leads to. -/
def find (files : FileSystem) (path : String) : Except SystemError (Location × Node) :=
  match files.locate .use path with
  | .ok (.found location node) => .ok (location, node)
  | .ok (.free _) => .error .notFound
  | .error cause => .error cause

def isFile (files : FileSystem) (path : String) : Bool :=
  match files.find path with
  | .ok (_, node) => node.isFile
  | .error _ => false

def isDirectory (files : FileSystem) (path : String) : Bool :=
  match files.find path with
  | .ok (_, node) => node.isDirectory
  | .error _ => false

def exists? (files : FileSystem) (path : String) : Bool :=
  match files.find path with
  | .ok _ => true
  | .error _ => false

/-- What a file holds. -/
def readContent (files : FileSystem) (path : String) : Except SystemError Content :=
  match files.find path with
  | .ok (_, .file content _) => .ok content
  | .ok (_, .device) => .ok (.text "")
  | .ok _ => .error .isDirectory
  | .error cause => .error cause

/-- The text that a file holds. -/
def readText (files : FileSystem) (path : String) : Except SystemError String :=
  match files.readContent path with
  | .ok (.text text) => .ok text
  | .ok (.binary _) => .error .invalidText
  | .error cause => .error cause

/-- The file system with the content of a file replaced, or with a new file. -/
def write (files : FileSystem) (path : String) (content : Content) :
    Except SystemError FileSystem :=
  match files.locate .create path with
  | .ok (.free location) => .ok { files with top := files.top.set location (.file content false) }
  | .ok (.found location (.file _ executable)) =>
      .ok { files with top := files.top.set location (.file content executable) }
  | .ok (.found _ .device) => .ok files
  | .ok (.found _ _) => .error .isDirectory
  | .error cause => .error cause

/-- The file system with a new directory. -/
def createDirectory (files : FileSystem) (path : String) : Except SystemError FileSystem :=
  match files.locate .entry path with
  | .ok (.free location) => .ok { files with top := files.top.set location (.directory []) }
  | .ok (.found _ _) => .error .fileExists
  | .error cause => .error cause

/-- The names in a directory. -/
def list (files : FileSystem) (path : String) : Except SystemError (List String) :=
  match files.find path with
  | .ok (_, .directory entries) => .ok (entries.map Prod.fst)
  | .ok _ => .error .notDirectory
  | .error cause => .error cause

/-- The locations of the files below a directory, relative to it. Links below it are neither
followed nor files. -/
def filesBelow (files : FileSystem) (path : String) : Except SystemError (List Location) :=
  match files.find path with
  | .ok (_, node) => .ok node.files
  | .error cause => .error cause

/-- The file system with the directories of a path that are missing. -/
def ensureDirectory (files : FileSystem) (path : String) : FileSystem :=
  let pieces := Walk.pieces path
  (List.range pieces.length).foldl
    (fun files count =>
      ((files.createDirectory ("/".intercalate (pieces.take (count + 1)))).toOption).getD files)
    files

/-- The names of a relative path. -/
def namesOf (path : String) : Location :=
  (Walk.pieces path).filter fun piece => piece ≠ "" && piece ≠ "."

/-- The file system in which the file at a path can be run. -/
def makeExecutable (files : FileSystem) (path : String) : FileSystem :=
  match files.find path with
  | .ok (location, .file content _) =>
      { files with top := files.top.set location (.file content true) }
  | _ => files

/-- The file system with a node put at a path. The directories on the way are made, a file is written
over what is there and can still be run if it could, and other nodes leave alone what is there. -/
def put (files : FileSystem) (path : String) (node : Node) : FileSystem :=
  let files := files.ensureDirectory (Path.directory path)
  match node with
  | .file content executable =>
      let files := ((files.write path content).toOption).getD files
      if executable then files.makeExecutable path else files
  | .directory _ => files.ensureDirectory path
  | node =>
      match files.locate .entry path with
      | .ok (.free location) => { files with top := files.top.set location node }
      | _ => files

/-- The file system without what is at a path below the current directory. -/
def remove (files : FileSystem) (path : String) : FileSystem :=
  { files with top := files.top.remove (files.here ++ namesOf path) }

/-- A file with its content, or a directory, that one file system has below its current directory
and another has not. -/
structure Change where
  path : String
  content : Option Content

/-- The current directory. -/
def current (files : FileSystem) : Node :=
  (files.top.get? files.here).getD (.directory [])

/-- Whether a node is new or holds something else than before. -/
def change? (before : Node) (location : Location) : Node → Option Change
  | .file content _ =>
      match before.get? location with
      | some (.file old _) =>
          if old = content then none else some ⟨"/".intercalate location, some content⟩
      | _ => some ⟨"/".intercalate location, some content⟩
  | .directory _ =>
      match before.get? location with
      | some (.directory _) => none
      | _ => some ⟨"/".intercalate location ++ "/", none⟩
  | _ => none

/-- What is new or changed below the current directory, in the order of the paths. -/
def changes (before after : FileSystem) : List Change :=
  (after.current.descendants.filterMap fun (location, node) =>
    change? before.current location node).mergeSort fun a b => a.path ≤ b.path

end FileSystem

end PapyrusWriter
