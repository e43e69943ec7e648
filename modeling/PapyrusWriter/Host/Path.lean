/-!
# Paths

A path is a text of pieces with `/` between them. Operations keep the text as it is written: joining
puts a separator where there is none, and the directory of a path is its text up to the end of the
component before the last. A component is a piece that is neither empty nor `.`; one `.` at the
start of a relative path counts as its first component.
-/

namespace PapyrusWriter.Path

set_option autoImplicit false

/-- The pieces between separators; a text without separators is one piece. -/
def split : List Char → List (List Char)
  | [] => [[]]
  | c :: cs =>
      if c = '/' then [] :: split cs
      else
        match split cs with
        | [] => [[c]]
        | piece :: rest => (c :: piece) :: rest

/-- The pieces with separators between them. -/
def unsplit : List (List Char) → List Char
  | [] => []
  | [piece] => piece
  | piece :: rest => piece ++ '/' :: unsplit rest

/-- The part of a path before its pieces: the root, or the `.` that a relative path starts with. -/
def lead : List Char → List Char
  | '/' :: _ => ['/']
  | ['.'] => ['.']
  | '.' :: '/' :: _ => ['.']
  | _ => []

/-- The pieces after the lead. -/
def pieces (text : List Char) : List (List Char) :=
  split (text.drop (lead text).length)

/-- A piece that names nothing. -/
def isTrivial (piece : List Char) : Bool :=
  piece = [] || piece = ['.']

/-- The pieces up to the last component. -/
def upToComponent (parts : List (List Char)) : List (List Char) :=
  (parts.reverse.dropWhile isTrivial).reverse

/-- The pieces before the last component, and that component. -/
def last? (text : List Char) : Option (List (List Char) × List Char) :=
  match (pieces text).reverse.dropWhile isTrivial with
  | [] => none
  | component :: before => some (before.reverse, component)

/-- The directory of a path; the root and the empty path have none. -/
def parent? (path : String) : Option String :=
  let text := path.toList
  match last? text with
  | some (before, _) => some (String.ofList (lead text ++ unsplit (upToComponent before)))
  | none => if lead text = ['.'] then some "" else none

/-- The directory of a path, where the current one is written `.`. -/
def directory (path : String) : String :=
  match parent? path with
  | none => "."
  | some parent => if parent = "" then "." else parent

/-- The last component, unless it leads to the directory above. -/
def fileName? (path : String) : Option (List Char) :=
  match last? path.toList with
  | some (_, component) => if component = ['.', '.'] then none else some component
  | none => none

/-- A path below a directory. An absolute path stands for itself. -/
def join (base path : String) : String :=
  match path.toList with
  | '/' :: _ => path
  | _ =>
      match base.toList.getLast? with
      | none => path
      | some '/' => base ++ path
      | some _ => base ++ "/" ++ path

/-- The parts of a name before and after its last dot. A name with no dot, or with its only dot at
the start, is all stem. -/
def splitName (name : List Char) : List Char × Option (List Char) :=
  let suffix := (name.reverse.takeWhile (· ≠ '.')).reverse
  let stem := name.take (name.length - suffix.length - 1)
  if suffix.length = name.length || stem = [] then (name, none) else (stem, some suffix)

def extension? (path : String) : Option (List Char) :=
  (fileName? path).bind fun name => (splitName name).2

/-- The path cut after the stem of its name, with a new extension unless that is empty. -/
def setExtension (path extension : String) : String :=
  let text := path.toList
  match last? text, fileName? path with
  | some (before, _), some name =>
      let stem := lead text ++ unsplit (before ++ [(splitName name).1])
      String.ofList stem ++ (if extension = "" then "" else "." ++ extension)
  | _, _ => path

/-- The path with its extension replaced. -/
def withExtension (path extension : String) : String :=
  match extension? path with
  | none => setExtension path extension
  | some old => setExtension (String.ofList (path.toList.take (path.length - old.length))) extension

/-- The path with its last component replaced. -/
def withFileName (path name : String) : String :=
  match fileName? path with
  | some _ => join ((parent? path).getD "") name
  | none => join path name

end PapyrusWriter.Path
