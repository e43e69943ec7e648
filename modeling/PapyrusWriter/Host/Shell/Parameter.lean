import PapyrusWriter.Host.Shell.Fields
import PapyrusWriter.Host.Shell.Word
/-!
# Parameters

The values of parameters, and how values become parts of fields.
-/

namespace PapyrusWriter.Shell

set_option autoImplicit false

/-- The number of the process. -/
def processNumber : String := "4242"

/-- The letters of the options that are on. -/
def optionLetters (options : Options) : String :=
  (if options.stopOnError then "e" else "") ++ (if options.keepPatterns then "f" else "") ++
    (if options.trace then "x" else "") ++ (if options.requireValues then "u" else "")

/-- The value of a parameter, if it has one. -/
def parameterValue? (p : Process) (name : String) : Option String :=
  match name with
  | "@" | "*" => some ((joinerOf p).intercalate p.arguments)
  | "#" => some (toString p.arguments.length)
  | "?" => some (toString p.status)
  | "$" => some processNumber
  | "-" => some (optionLetters p.options)
  | "0" => some p.name
  | _ =>
      match name.toNat? with
      | some n => p.arguments[n - 1]?
      | none => p.bindings.lookup name

/-- Whether a parameter is never an error without value. -/
def isOptional (name : String) : Bool := name = "@" || name = "*" || name = "!"

/-- The bytes of an output as text, without line feeds at the end and without null characters. -/
def outputText (bytes : List UInt8) : List Char :=
  let text := (Text.ofBytesLossy (bytes.filter (· ≠ 0))).toList
  (text.reverse.dropWhile (· = '\n')).reverse

/-- Adds the value of an expansion to fields. -/
def addValue (p : Process) (quoted : Bool) (fields : Fields) (value : List Char) : Fields :=
  if quoted then fields.add (marked true value)
  else if fields.whole then fields.add (marked false value)
  else fields.addSplit (separatorsOf p) value

/-- Adds the arguments to fields. -/
def addArguments (p : Process) (quoted : Bool) (fields : Fields) : Fields :=
  if fields.whole then fields.add (marked quoted ((joinerOf p).intercalate p.arguments).toList)
  else if quoted then fields.addEach p.arguments
  else fields.addEachSplit (separatorsOf p) p.arguments

/-- The word that a text inside of an expansion is. -/
def wordIn (quoted : Bool) (line : Nat) (text : List Char) : Except String Word :=
  if quoted then textPieces line (text.filter (· ≠ '"'))
  else (wordPieces true (text.length + 1) line text).map Prod.fst

/-! ## The home directory -/

/-- The home directory of the user. -/
def homeOf (p : Process) : String := (p.bindings.lookup "HOME").getD "/root"

/-- A word with the home directory in place of a tilde that is its first name. -/
def withHome (p : Process) (word : Word) : Word :=
  match word with
  | [.text ['~'] false] => [.text (homeOf p).toList true]
  | .text ['~'] false :: .text ['/'] false :: rest =>
      .text (homeOf p).toList true :: .text ['/'] false :: rest
  | _ => word

end PapyrusWriter.Shell
