import PapyrusWriter.Error
import PapyrusWriter.Log
import PapyrusWriter.Text.Blank
/-!
# Pages

A page is what has been written so far, with the indentation of the next line. A renderer writes on
a page, reports events, and may fail. Renderers compose with `>=>`; `indented` and `flattened` are
the two ways to write a body one level below its head: `indented` keeps the levels inside the body,
`flattened` trims every line and so puts all of them on one level.
-/

namespace PapyrusWriter

set_option autoImplicit false

/-- The lines written so far, and the level of the next one. -/
structure Page where
  indent : Nat
  lines : Array String
deriving DecidableEq

namespace Page

def blank : Page := ⟨0, #[]⟩

instance : Inhabited Page := ⟨blank⟩

/-- Four spaces for each level. -/
def indentation (level : Nat) : String :=
  String.ofList (List.replicate (4 * level) ' ')

/-- A line at a level. An empty line is not indented. -/
def line (level : Nat) (text : String) : String :=
  if text = "" then "" else indentation level ++ text

def emit (page : Page) (text : String) : Page :=
  { page with lines := page.lines.push (line page.indent text) }

def enter (page : Page) : Page := { page with indent := page.indent + 1 }

def exit (page : Page) : Page := { page with indent := page.indent - 1 }

/-- The lines with a line feed after each of them. -/
def text (page : Page) : String :=
  "\n".intercalate page.lines.toList ++ "\n"

end Page

/-- The outcome of rendering. -/
abbrev Render := Logged TranspileError

/-- Writes on a page. -/
abbrev Renderer := Page → Render Page

namespace Renderer

/-- Writes nothing. -/
def skip : Renderer := pure

/-- Writes one line. -/
def emit (text : String) : Renderer := fun page => pure (page.emit text)

/-- Writes the line that is computed first. -/
def emitLine (text : Except TranspileError String) : Renderer := fun page => do
  let text ← text
  pure (page.emit text)

/-- Writes the lines, one after the other. -/
def emitAll (texts : List String) : Renderer := fun page =>
  pure (texts.foldl Page.emit page)

/-- Reports an event. -/
def report (event : Event) : Renderer := fun page => do
  Logged.report event
  pure page

/-- Goes on only where the check succeeds. -/
def check (result : Except TranspileError Unit) : Renderer := fun page => do
  result
  pure page

/-- Writes the body one level deeper; `leave` ends it. -/
def indented (leave : Page → Except TranspileError Page) (body : Renderer) : Renderer :=
  fun page => do
    let inner ← body page.enter
    leave inner

/-- Writes the trimmed lines of the body, all of them one level deeper; `leave` ends them. -/
def flattened (leave : Page → Except TranspileError Page) (body : Renderer) : Renderer :=
  fun page => do
    let inner ← body Page.blank
    leave ((inner.lines.toList.map Text.trim).foldl Page.emit page.enter)

end Renderer

end PapyrusWriter
