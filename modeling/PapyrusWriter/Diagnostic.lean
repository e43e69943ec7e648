/-!
# Diagnostics of a source text
-/

namespace PapyrusWriter

set_option autoImplicit false

/-- A fault of a source text, with its line and column where they are known. -/
structure Diagnostic where
  position : Option (Nat × Nat)
  message : String
deriving DecidableEq, Inhabited

namespace Diagnostic

/-- The diagnostic as one line. -/
def text (diagnostic : Diagnostic) : String :=
  match diagnostic.position with
  | some (line, column) =>
      "syntax error at line " ++ toString line ++ ", column " ++ toString column ++ ": " ++
        diagnostic.message
  | none => "syntax error: " ++ diagnostic.message

end Diagnostic

end PapyrusWriter
