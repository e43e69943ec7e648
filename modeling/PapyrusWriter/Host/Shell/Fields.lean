import PapyrusWriter.Host.Shell.Pattern
import PapyrusWriter.Host.Shell.Process
/-!
# Fields

A word is expanded into fields. What stands outside of quotes is split at separators: blanks only
divide fields, and each other separator ends one, so that there can be empty ones.
-/

namespace PapyrusWriter.Shell

set_option autoImplicit false

/-- The fields of a word so far: those that are finished, the last one first, and the one that is
open, its last character first. -/
structure Fields where
  finished : List (List Marked) := []
  current : Option (List Marked) := none
  /-- Whether the last field was ended by a blank, to which another separator can belong. -/
  parted : Bool := false
  /-- Whether all is one field, so that nothing is split. -/
  whole : Bool := false
  /-- Whether texts are split as values are. -/
  splitsTexts : Bool := false

namespace Fields

/-- Adds characters to the open field. -/
def add (fields : Fields) (chars : List Marked) : Fields :=
  { fields with current := some (chars.reverse ++ fields.current.getD []), parted := false }

/-- Ends the open field. -/
def split (fields : Fields) : Fields :=
  match fields.current with
  | some field => { fields with finished := field.reverse :: fields.finished, current := none }
  | none => fields

/-- Ends a field that may be empty. -/
def endField (fields : Fields) : Fields :=
  { fields with finished := (fields.current.getD []).reverse :: fields.finished, current := none }

def isSpace (c : Char) : Bool := c = ' ' || c = '\t' || c = '\n'

/-- Adds a value that is split at separators. -/
def addSplit (separators : List Char) (fields : Fields) : List Char → Fields
  | [] => fields
  | c :: rest =>
      if !separators.contains c then addSplit separators (fields.add [(c, false)]) rest
      else if isSpace c then
        addSplit separators
          { fields.split with parted := fields.parted || fields.current.isSome } rest
      else if fields.parted then addSplit separators { fields with parted := false } rest
      else addSplit separators fields.endField rest

/-- Adds values as fields of their own; the first one goes on with the open field. -/
def addEach (fields : Fields) : List String → Fields
  | [] => fields
  | [value] => fields.add (marked true value.toList)
  | value :: rest => addEach (fields.add (marked true value.toList)).split rest

/-- Adds values as fields of their own that are split further. -/
def addEachSplit (separators : List Char) (fields : Fields) : List String → Fields
  | [] => fields
  | [value] => fields.addSplit separators value.toList
  | value :: rest =>
      let next := (fields.addSplit separators value.toList).split
      addEachSplit separators { next with parted := false } rest

def toList (fields : Fields) : List (List Marked) := fields.split.finished.reverse

end Fields

def plain (field : List Marked) : String := String.ofList (unmarked field)

/-! ## Separators -/

def standardSeparators : List Char := [' ', '\t', '\n']

def separatorsOf (p : Process) : List Char :=
  (p.bindings.lookup "IFS").elim standardSeparators String.toList

/-- What stands between arguments that become one text. -/
def joinerOf (p : Process) : String :=
  match p.bindings.lookup "IFS" with
  | none => " "
  | some text => String.ofList (text.toList.take 1)

/-! ## Lines of input -/

/-- The bytes of a line from the input, the rest of the input, and whether the line has an end. Unless
`raw`, a line end behind a backslash does not count. -/
def inputLine (raw : Bool) : List UInt8 → List UInt8 × List UInt8 × Bool
  | [] => ([], [], false)
  | 10 :: rest => ([], rest, true)
  | 92 :: byte :: rest =>
      if raw && byte = 10 then ([92], rest, true)
      else
        let (line, after, ended) := inputLine raw rest
        (92 :: byte :: line, after, ended)
  | byte :: rest =>
      let (line, after, ended) := inputLine raw rest
      (byte :: line, after, ended)

/-- The characters of a line, each with whether a backslash stands before it. If `raw`, backslashes
are characters. -/
def lineChars (raw : Bool) : List Char → List Marked
  | [] => []
  | [c] => if c = '\\' && !raw then [] else [(c, false)]
  | c :: d :: rest =>
      if c = '\\' && !raw then (if d = '\n' then lineChars raw rest else (d, true) :: lineChars raw rest)
      else (c, false) :: lineChars raw (d :: rest)

/-- Whether a character of a line is a blank that separates. -/
def isGap (separators : List Char) (c : Marked) : Bool :=
  !c.2 && Fields.isSpace c.1 && separators.contains c.1

/-- The values of variables from a line: one field each, and the rest for the last one. -/
def lineValues (separators : List Char) : List String → List Marked → List (String × String)
  | [], _ => []
  | [name], line =>
      let line := line.dropWhile (isGap separators)
      [(name, plain (line.reverse.dropWhile (isGap separators)).reverse)]
  | name :: rest, line =>
      let line := line.dropWhile (isGap separators)
      let field := line.takeWhile fun c => c.2 || !separators.contains c.1
      let after := (line.drop field.length).dropWhile (isGap separators)
      let after :=
        match after with
        | (c, false) :: more => if separators.contains c && !Fields.isSpace c then more else after
        | _ => after
      (name, plain field) :: lineValues separators rest after

end PapyrusWriter.Shell
