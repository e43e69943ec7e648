/-!
# Shell scripts

The commands of a script, and words with what is expanded in them. Commands are simple ones, lists,
pipelines, conditions, loops, choices by pattern, and definitions of functions.
-/

namespace PapyrusWriter.Shell

set_option autoImplicit false

/-- What is made of the value of a parameter. `orEmpty` says that an empty value counts as none. -/
inductive Modifier where
  | none
  | length
  /-- Another text where there is no value. -/
  | default (orEmpty : Bool) (text : List Char)
  /-- The same, and the text becomes the value. -/
  | assign (orEmpty : Bool) (text : List Char)
  /-- Another text where there is a value. -/
  | alternative (orEmpty : Bool) (text : List Char)
  /-- An error where there is no value. -/
  | required (orEmpty : Bool) (text : List Char)
  /-- Without the shortest or longest start that a pattern accepts. -/
  | dropStart (longest : Bool) (pattern : List Char)
  /-- Without the shortest or longest end that a pattern accepts. -/
  | dropEnd (longest : Bool) (pattern : List Char)
  /-- What is no modifier. -/
  | unknown
deriving DecidableEq

inductive Piece where
  | text (chars : List Char) (quoted : Bool)
  | parameter (name : String) (modifier : Modifier) (quoted : Bool)
  /-- The output of a script that starts in a line. -/
  | output (script : List Char) (line : Nat) (quoted : Bool)
  /-- The value of an arithmetic expression. -/
  | arithmetic (text : List Char) (quoted : Bool)
deriving DecidableEq

abbrev Word := List Piece

inductive RedirectKind where
  | write
  | append
  | read
  | readWrite
  | copy
  /-- The word is the input itself. -/
  | here
deriving DecidableEq

/-- Where a channel of a command leads. -/
structure Redirect where
  channel : Nat
  kind : RedirectKind
  target : Word
deriving DecidableEq

inductive Script where
  | nothing
  | simple (line : Nat) (assignments : List (String × Word)) (words : List Word)
      (redirects : List Redirect)
  | sequence (first second : Script)
  | both (first second : Script)
  | either (first second : Script)
  | negated (inner : Script)
  | pipe (first second : Script)
  | background (inner : Script)
  | group (line : Nat) (inner : Script) (redirects : List Redirect)
  | subshell (line : Nat) (inner : Script) (redirects : List Redirect)
  | condition (test yes no : Script)
  | loop (whileTrue : Bool) (test body : Script)
  | each (name : String) (words : List Word) (body : Script)
  | choice (word : Word) (branches : List (List Word × Script))
  | function (name : String) (body : Script)

instance : Inhabited Script := ⟨.nothing⟩

/-- What is wrong with the text of a script, and the line where that is found. -/
structure SyntaxFault where
  message : String
  line : Nat
deriving DecidableEq

/-- A script as a list of commands, which are run one after the other. A fault ends them. -/
structure Program where
  commands : List Script
  fault : Option SyntaxFault

/-! ## Names -/

def isBlank (c : Char) : Bool := c = ' ' || c = '\t'

def isNameStart (c : Char) : Bool := c.isAlpha || c = '_'

def isNameChar (c : Char) : Bool := c.isAlphanum || c = '_'

/-- Whether a text is the name of a variable. -/
def isName (text : List Char) : Bool :=
  text.head?.any isNameStart && text.all isNameChar

end PapyrusWriter.Shell
