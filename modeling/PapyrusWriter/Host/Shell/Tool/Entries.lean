import PapyrusWriter.Host.Shell.Tool.Basic
/-!
# Programs that make, copy and remove files
-/

namespace PapyrusWriter.Shell.Tool

set_option autoImplicit false

def quote (text : String) : String := "'" ++ text ++ "'"

/-- Replaces the files of the process, or complains. -/
def change (complaint : String) (result : Except SystemError FileSystem) : Run Nat := do
  match result with
  | .ok files =>
      modify fun p => { p with files }
      return 0
  | .error cause =>
      Run.complainBy (complaint ++ ": " ++ cause.text)
      return 1

/-- The names in a directory that are shown, one in a line. -/
def listing (call : Call) (names : List String) : String :=
  let all := if call.has 'a' then "." :: ".." :: names else names
  let shown := all.filter fun name => call.has 'a' || call.has 'A' || name.toList.head? ≠ some '.'
  String.join ((if call.has 'r' then shown.reverse else shown).map (· ++ "\n"))

/-- Lists files, and then the names in directories. -/
def ls : Tool := fun arguments => do
  let call := callOf "" arguments
  let operands := if call.operands = [] then ["."] else call.operands
  let status ← forAll (fun path => do
    match (← get).files.find path with
    | .ok _ => return 0
    | .error cause =>
        Run.complainBy ("cannot access " ++ quote path ++ ": " ++ cause.text)
        return 2) operands
  let files := (← get).files
  let present := (operands.filter files.exists?).mergeSort
  let present := if call.has 'r' then present.reverse else present
  let (directories, others) := present.partition fun path => files.isDirectory path && !call.has 'd'
  let parts := directories.map fun path =>
    (if 1 < operands.length then path ++ ":\n" else "") ++
      listing call ((files.list path).toOption.getD [])
  let plain := if others = [] then [] else [String.join (others.map (· ++ "\n"))]
  Run.write 1 ("\n".intercalate (plain ++ parts))
  return status

def touch : Tool := fun arguments =>
  forAll (fun path => do
    if (← get).files.exists? path then return 0
    change ("cannot touch " ++ quote path) ((← get).files.write path (.text "")))
    (callOf "" arguments).operands

def mkdir : Tool := fun arguments =>
  let call := callOf "m" arguments
  forAll (fun path => do
    if call.has 'p' then modify fun p => { p with files := p.files.ensureDirectory path }
    if call.has 'p' && (← get).files.isDirectory path then return 0
    change ("cannot create directory " ++ quote path) ((← get).files.createDirectory path))
    call.operands

/-- The entry that a path leads to, links not followed. -/
def entry? (files : FileSystem) (path : String) : Option (Location × Node) :=
  match files.locate .entry path with
  | .ok (.found location node) => some (location, node)
  | _ => none

/-- The file system without the entry that a path leads to. -/
def erase (files : FileSystem) (path : String) : FileSystem :=
  match entry? files path with
  | some (location, _) => { files with top := files.top.remove location }
  | none => files

def rm : Tool := fun arguments =>
  let call := callOf "" arguments
  forAll (fun path => do
    let files := (← get).files
    match entry? files path with
    | some (_, .directory _) =>
        if call.has 'r' || call.has 'R' then
          modify fun p => { p with files := erase p.files path }
          return 0
        Run.complainBy ("cannot remove " ++ quote path ++ ": Is a directory")
        return 1
    | some _ =>
        modify fun p => { p with files := erase p.files path }
        return 0
    | none =>
        if call.has 'f' then return 0
        let cause := match files.find path with | .error cause => cause | .ok _ => .notFound
        Run.complainBy ("cannot remove " ++ quote path ++ ": " ++ cause.text)
        return 1) call.operands

def rmdir : Tool := fun arguments =>
  forAll (fun path => do
    let fail (reason : String) : Run Nat := do
      Run.complainBy ("failed to remove " ++ quote path ++ ": " ++ reason)
      return 1
    match entry? (← get).files path with
    | some (_, .directory []) =>
        modify fun p => { p with files := erase p.files path }
        return 0
    | some (_, .directory _) => fail "Directory not empty"
    | some _ => fail "Not a directory"
    | none => fail "No such file or directory") (callOf "" arguments).operands

/-- The path that something is copied to: below a directory it keeps its name. -/
def copyTarget (files : FileSystem) (source target : String) : String :=
  if files.isDirectory target then
    Path.join target (String.ofList ((Path.fileName? source).getD []))
  else target

/-- The file system with a node at a place. -/
def place (files : FileSystem) (path : String) (node : Node) : Except SystemError FileSystem :=
  match files.locate .entry path with
  | .ok (.free location) | .ok (.found location _) =>
      .ok { files with top := files.top.set location node }
  | .error cause => .error cause

/-- Copies to a target. A new file can be run if the old one can. -/
def copyTo (deep : Bool) (target source : String) : Run Nat := do
  let files := (← get).files
  let path := copyTarget files source target
  let complaint := "cannot create regular file " ++ quote path
  match files.find source with
  | .error cause =>
      Run.complainBy ("cannot stat " ++ quote source ++ ": " ++ cause.text)
      return 1
  | .ok (_, .directory entries) =>
      if deep then change complaint (place files path (.directory entries))
      else
        Run.complainBy ("-r not specified; omitting directory " ++ quote source)
        return 1
  | .ok (_, .file content executable) =>
      if files.exists? path then change complaint (files.write path content)
      else if executable then change complaint (place files path (.file content true))
      else change complaint (files.write path content)
  | .ok (_, _) => change complaint (files.write path (.text ""))

def cp : Tool := fun arguments =>
  let call := callOf "t" arguments
  let deep := call.has 'r' || call.has 'R' || call.has 'a'
  match call.operands.reverse with
  | target :: source :: more => forAll (copyTo deep target) (source :: more).reverse
  | _ => missingOperand

def mv : Tool := fun arguments =>
  match (callOf "t" arguments).operands.reverse with
  | target :: source :: more =>
      forAll (fun source => do
        let files := (← get).files
        match entry? files source with
        | none =>
            Run.complainBy ("cannot stat " ++ quote source ++ ": " ++ SystemError.notFound.text)
            return 1
        | some (_, node) =>
            let path := copyTarget files source target
            change ("cannot move " ++ quote source ++ " to " ++ quote path)
              (place (erase files source) path node)) (source :: more).reverse
  | _ => missingOperand

/-- Makes links; only symbolic ones are told apart from files. -/
def ln : Tool := fun arguments =>
  let call := callOf "" arguments
  match call.operands with
  | [source, target] => do
      let files := (← get).files
      let path := copyTarget files source target
      let files := if call.has 'f' then erase files path else files
      let complaint := "failed to create " ++ (if call.has 's' then "symbolic" else "hard") ++
        " link " ++ quote path
      match entry? files path, call.has 's', files.find source with
      | some _, _, _ => change complaint (.error .fileExists)
      | none, true, _ => change complaint (place files path (.link source))
      | none, false, .ok (_, node) => change complaint (place files path node)
      | none, false, .error cause =>
          Run.complainBy ("failed to access " ++ quote source ++ ": " ++ cause.text)
          return 1
  | _ => missingOperand

/-- Whether a mode lets a file be run: octal digits, or letters after a plus sign. -/
def runnable? (mode : String) : Option Bool :=
  match mode.toList.getLast?, mode.toList.contains 'x', mode.toList.contains '+' with
  | some c, false, _ => if c.isDigit then some (mode.toList.any fun c => "1357".toList.contains c) else none
  | _, true, plus => some plus
  | none, false, _ => none

def chmod : Tool
  | mode :: path :: more =>
      forAll (fun path => do
        let files := (← get).files
        match files.find path, runnable? mode with
        | .ok (location, .file content _), some runnable =>
            set { (← get) with
              files := { files with top := files.top.set location (.file content runnable) } }
            return 0
        | .ok _, _ => return 0
        | .error cause, _ =>
            Run.complainBy ("cannot access " ++ quote path ++ ": " ++ cause.text)
            return 1) (path :: more)
  | [mode] => do
      Run.complainBy ("missing operand after " ++ quote mode)
      tryHelp
      return 1
  | [] => missingOperand

/-! ## Names -/

/-- A text without slashes at its end. -/
def unslashed (text : List Char) : List Char := (text.reverse.dropWhile (· = '/')).reverse

/-- The last name of a path. -/
def lastName (path : List Char) : List Char :=
  if path ≠ [] && path.all (· = '/') then ['/']
  else ((unslashed path).reverse.takeWhile (· ≠ '/')).reverse

/-- A path without its last name. -/
def leadOf (path : List Char) : List Char :=
  let front := ((unslashed path).reverse.dropWhile (· ≠ '/')).reverse
  if front = [] then (if path.head? = some '/' then ['/'] else ['.'])
  else if unslashed front = [] then ['/'] else unslashed front

def basename : Tool
  | path :: ending => do
      let name := lastName path.toList
      let suffix := (ending.headD "").toList
      let kept :=
        if suffix ≠ [] && suffix.isSuffixOf name && suffix ≠ name then
          name.take (name.length - suffix.length)
        else name
      writeLines [kept]
      return 0
  | [] => missingOperand

def dirname : Tool
  | path :: more =>
      forAll (fun path => do
        writeLines [leadOf path.toList]
        return 0) (path :: more)
  | [] => missingOperand

def pwd : Tool := fun _ => do
  Run.write 1 ("/" ++ "/".intercalate (← get).files.here ++ "\n")
  return 0

end PapyrusWriter.Shell.Tool
