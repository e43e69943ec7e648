import PapyrusWriter.Host.FileSystem
import PapyrusWriter.Host.Shell.Script
/-!
# Programs in files

A file that can be run is a program of the system or a script, whose first line names the program
that runs it.
-/

namespace PapyrusWriter.Shell

set_option autoImplicit false

/-- So many characters of a file are looked at for the program that runs it. -/
def headLength : Nat := 256

/-- The interpreter and the argument that the first line of a script names. A line that is too long is
cut off, but not inside of the interpreter. If the text ends where the interpreter is to stand, its
name is empty. -/
def interpreter? (text : List Char) : Option (List Char × List Char) :=
  match text with
  | '#' :: '!' :: rest =>
      let head := rest.take (headLength - 2)
      let line := head.takeWhile fun c => c ≠ '\n' && c ≠ '\x00'
      let ended := (head.drop line.length).head?
      let cut := line.length = headLength - 2
      let kept := if cut then line.dropLast else line
      let kept := ((kept.dropWhile isBlank).reverse.dropWhile isBlank).reverse
      let name := kept.takeWhile (!isBlank ·)
      let split := (line.dropWhile isBlank).any isBlank
      if (cut && !split) || (name = [] && ended = some '\n') then none
      else some (name, (kept.drop name.length).dropWhile isBlank)
  | _ => none

/-- How a file is run: the program, what it is called by, and the arguments before all others. -/
structure Launch where
  program : String
  called : String
  arguments : List String := []

/-- How a file is run. Scripts name their program in the first line. -/
def programOf : Nat → FileSystem → String → Except SystemError Launch
  | 0, _, _ => .error .tooManyLinks
  | levels + 1, files, path =>
      match files.find path with
      | .error cause => .error cause
      | .ok (["usr", "bin", name], .file (.binary _) true) => .ok ⟨name, path, []⟩
      | .ok (_, .file content true) =>
          match interpreter? content.lossyText.toList with
          | some ([], _) => .error .permissionDenied
          | some (interpreter, argument) =>
              (programOf levels files (String.ofList interpreter)).map fun launch =>
                let given := if argument = [] then [] else [String.ofList argument]
                { launch with arguments := launch.arguments ++ given ++ [path] }
          | none => .error .execFormat
      | .ok _ => .error .permissionDenied

/-- The text of a script in a file. Null characters do not count. -/
def scriptText (content : Content) : List Char :=
  content.lossyText.toList.filter (· ≠ '\x00')

/-- How deep scripts can name scripts as their programs. -/
def interpreterLimit : Nat := 5

/-- The programs that run scripts. -/
def shells : List String := ["sh", "bash", "dash"]

/-- The words between blanks. -/
def blankWords (text : List Char) : List String :=
  ((text.splitOnP isBlank).filter (· ≠ [])).map String.ofList

/-- Arguments of which the first one can be an option that is to be split into several. -/
def splitFirst : List String → List String
  | [] => []
  | first :: rest =>
      match first.toList with
      | '-' :: 'S' :: text => blankWords text ++ rest
      | _ => first :: rest

/-- Where the programs of the system are. -/
def programPath (name : String) : String := "/usr/bin/" ++ name

end PapyrusWriter.Shell
