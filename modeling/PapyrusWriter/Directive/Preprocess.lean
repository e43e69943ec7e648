import PapyrusWriter.Directive.Table
import PapyrusWriter.Error
import PapyrusWriter.Host.Path
import PapyrusWriter.Tree.Member
/-!
# Directives of a script

Definitions go into the directive table, in order, after the entries that are given from outside.
Included files are read in order; their texts are not looked into. The first file that cannot be
read ends the run.
-/

namespace PapyrusWriter

set_option autoImplicit false

/-- How files are read. -/
abbrev FileReader := String → Except SystemError String

/-- The path of an included file. -/
def includePath (root path : String) : String :=
  Path.join root (Text.stripQuotes path)

/-- Reads an included file. -/
def readInclude (read : FileReader) (root path : String) : Logged TranspileError String :=
  let path := includePath root path
  match read path with
  | .ok text => do
      Logged.report (.included path text.utf8ByteSize)
      return text
  | .error .notFound => Logged.fail (.includeNotFound path)
  | .error cause => Logged.fail (.includeUnreadable path cause)

/-- What the directives of a script say. -/
structure Preprocessed where
  table : DirectiveTable
  includes : List String

namespace Preprocessed

def define (state : Preprocessed) (name : String) (value : Option String) : Preprocessed :=
  { state with table := state.table.define name value }

def addInclude (state : Preprocessed) (text : String) : Preprocessed :=
  { state with includes := state.includes ++ [text] }

end Preprocessed

/-- Takes up directives in order. -/
def takeDirectives (read : FileReader) (root : String) :
    List Directive → Preprocessed → Logged TranspileError Preprocessed
  | [], state => pure state
  | .define name value :: rest, state => takeDirectives read root rest (state.define name value)
  | .includeFile path :: rest, state => do
      let text ← readInclude read root path
      takeDirectives read root rest (state.addInclude text)

/-- Takes up directives after the seed entries of the table. -/
def preprocess (read : FileReader) (root : String) (seed : List (String × String))
    (directives : List Directive) : Logged TranspileError Preprocessed :=
  takeDirectives read root directives ⟨DirectiveTable.ofList seed, []⟩

end PapyrusWriter
