import PapyrusWriter.Directive.Preprocess
import PapyrusWriter.Render.Script
/-!
# From a syntax tree to source text

The name of the game is checked first, then the directives are taken up, the script is rendered, the
included texts are put before it, and last the names of the directive table are replaced in the
whole.
-/

namespace PapyrusWriter

set_option autoImplicit false

structure TranspileOptions where
  game : String
  /-- The directory that included files are looked up in. -/
  includeRoot : String := "."
  /-- Entries of the directive table before those of the script. -/
  defines : List (String × String) := []

structure Transpiled where
  code : String
  directives : DirectiveTable

namespace Transpiled

/-- The name that the script asks its output file to have. -/
def outputFileName? (result : Transpiled) : Option String :=
  result.directives.get? "OutputFileName"

def json (result : Transpiled) : Json :=
  .obj [("code", .str result.code), ("directives", result.directives.json)]

end Transpiled

/-- A text that ends in a line feed: one is added where there is none. -/
def closeLine (text : String) : String :=
  if text.toList.getLast? = some '\n' then text else text ++ "\n"

/-- Included texts, one after the other, before a script. -/
def assemble (includes : List String) (script : String) : String :=
  String.join (includes.map closeLine) ++ script

def SyntaxTree.transpile (read : FileReader) (options : TranspileOptions) (tree : SyntaxTree) :
    Logged TranspileError Transpiled := do
  let game ← Game.parse options.game
  let state ← preprocess read options.includeRoot options.defines tree.directives
  let generated ← tree.script.generate game state.table
  let code := state.table.substitute (assemble state.includes generated)
  state.table.substituteEvents.forM Logged.report
  Logged.report (.transpiledScript tree.script.name.normalized game.name state.table.size)
  return ⟨code, state.table⟩

end PapyrusWriter
