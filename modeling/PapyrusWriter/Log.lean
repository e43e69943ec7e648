import PapyrusWriter.Diagnostic
/-!
# The log

An event is something a run reports, with a level and a text. `Logged` is a computation that reports
events and then gives a value or fails; the events before a failure are kept.
-/

namespace PapyrusWriter

set_option autoImplicit false

inductive Level where
  | debug
  | info
  | warn
  | error
deriving DecidableEq, Inhabited

namespace Level

def name : Level → String
  | .debug => "DEBUG"
  | .info => "INFO"
  | .warn => "WARN"
  | .error => "ERROR"

end Level

/-- What a run reports. -/
inductive Event where
  | diagnostic (diagnostic : Diagnostic)
  | skippedBlock (name : String)
  | included (path : String) (bytes : Nat)
  | replacing (name value : String)
  | transpiledScript (name game : String) (directives : Nat)
  | transpilingFile (path : String)
  | renamedOutput (name : String)
  | transpiledFile (input output : String)
  | done
  | building (name version : String)
  | transpilingSource (path : String)
  | transpiledSource (source output : String)
  | compiling (path : String)
  | compilerOutput (line : String)
  | compilationFailed
  | compilerError (line : String)
  | creatingProject
  | creatingSourceFolder
  | projectCreated
  | relativePaths
  | checkManifest
  | version (component version : String)
  | failed (code message : String)
deriving DecidableEq

namespace Event

def level : Event → Level
  | .diagnostic _ | .compilationFailed | .compilerError _ | .failed _ _ => .error
  | .relativePaths => .warn
  | .done | .building _ _ | .compilerOutput _ | .creatingProject | .projectCreated
  | .checkManifest | .version _ _ => .info
  | _ => .debug

def message : Event → String
  | .diagnostic found => found.text
  | .skippedBlock name => "skipping conditional block \"" ++ name ++ "\""
  | .included path bytes => "included " ++ path ++ " (" ++ toString bytes ++ " bytes)"
  | .replacing name value => "replacing all occurrences of " ++ name ++ " with " ++ value
  | .transpiledScript name game directives =>
      "transpiled script " ++ name ++ " for " ++ game ++ " (" ++ toString directives ++
        " directives)"
  | .transpilingFile path => "transpiling file " ++ path
  | .renamedOutput name =>
      "script has an OutputFileName directive, using " ++ name ++ " as the output file"
  | .transpiledFile input output => "transpiled " ++ input ++ " to " ++ output
  | .done => "done"
  | .building name number => "building project " ++ name ++ " v" ++ number
  | .transpilingSource path => "transpiling " ++ path
  | .transpiledSource source output => "transpiled file " ++ source ++ " -> " ++ output
  | .compiling path => "compiling papyrus script " ++ path
  | .compilerOutput line => "[Papyrus Compiler] " ++ line
  | .compilationFailed => "compilation failed:"
  | .compilerError line => "[Papyrus Compiler] " ++ line
  | .creatingProject => "creating a new project"
  | .creatingSourceFolder => "the src/ directory doesn't exist, creating"
  | .projectCreated => "project created"
  | .relativePaths =>
      "game paths in project.yaml are relative to the project, point them at your installation"
  | .checkManifest => "please check the project.yaml file before building"
  | .version component number => "PaperScript " ++ component ++ " v" ++ number
  | .failed code message => code ++ ": " ++ message

end Event

/-- The events of a computation and its outcome. -/
structure Logged (ε α : Type) where
  events : List Event
  result : Except ε α

namespace Logged

variable {ε α β : Type}

/-- No events, and an outcome that is given. -/
def ofExcept (result : Except ε α) : Logged ε α := ⟨[], result⟩

/-- Reports one event. -/
def report (event : Event) : Logged ε Unit := ⟨[event], .ok ()⟩

def fail (error : ε) : Logged ε α := ⟨[], .error error⟩

def bind (first : Logged ε α) (next : α → Logged ε β) : Logged ε β :=
  match first.result with
  | .ok a => ⟨first.events ++ (next a).events, (next a).result⟩
  | .error error => ⟨first.events, .error error⟩

instance : Monad (Logged ε) where
  pure a := ofExcept (.ok a)
  bind := bind

instance : MonadLift (Except ε) (Logged ε) where
  monadLift := ofExcept

@[simp] theorem result_pure (a : α) : (pure a : Logged ε α).result = .ok a := rfl

/-- Outcomes compose without regard to events. -/
@[simp] theorem result_bind (first : Logged ε α) (next : α → Logged ε β) :
    (first >>= next).result = first.result >>= fun a => (next a).result := by
  show (bind first next).result = _
  unfold bind
  cases first.result <;> rfl

@[simp] theorem result_ofExcept (result : Except ε α) : (ofExcept result).result = result := rfl

end Logged

end PapyrusWriter
