import PapyrusWriter.Tree.Decode
import PapyrusWriter.Tree.Identifiers
/-!
# Reading a source text

A text that is no tree gives one diagnostic and no tree. A tree with ill-formed identifiers is given
all the same, together with their diagnostics.
-/

namespace PapyrusWriter

set_option autoImplicit false

/-- The diagnostic of a text that cannot be read. -/
def Json.ReadError.diagnostic (error : Json.ReadError) : Diagnostic :=
  ⟨error.position.map fun place => (place.line, place.column), error.message⟩

/-- The tree of a source text, if there is one, and the diagnostics. -/
def SyntaxTree.read (text : String) : Option SyntaxTree × List Diagnostic :=
  match SyntaxTree.decoder.read text with
  | .ok tree => (some tree, tree.identifierDiagnostics)
  | .error error => (none, [error.diagnostic])

end PapyrusWriter
