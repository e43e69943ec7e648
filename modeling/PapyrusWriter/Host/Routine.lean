import PapyrusWriter.Host.Node
import PapyrusWriter.Host.SystemError
import PapyrusWriter.Log
/-!
# Routines

A routine is a computation that asks its host for everything outside of it: files, programs, the log
and the output. What a routine does is fixed by the answers, so a model of a host and the real one
run the same routines.
-/

namespace PapyrusWriter

set_option autoImplicit false

/-- How a program ended, and what it wrote. -/
structure ProgramRun where
  succeeded : Bool
  output : List UInt8
  errors : List UInt8
deriving Inhabited

/-- What a routine asks for. -/
inductive Request where
  | isFile (path : String)
  | isDirectory (path : String)
  | exists? (path : String)
  | readText (path : String)
  | writeText (path text : String)
  /-- The names in a directory. -/
  | list (path : String)
  | createDirectory (path : String)
  /-- The files below a directory, each by the names that lead to it, in the order of names. -/
  | filesBelow (path : String)
  | run (program : String) (arguments : List String)
  | report (event : Event)
  | print (text : String)

/-- The kind of answer that a request has. -/
abbrev Request.Answer : Request → Type
  | .isFile _ | .isDirectory _ | .exists? _ => Bool
  | .readText _ => Except SystemError String
  | .writeText _ _ | .createDirectory _ => Except SystemError Unit
  | .list _ => Except SystemError (List String)
  | .filesBelow _ => Except SystemError (List Location)
  | .run _ _ => Except SystemError ProgramRun
  | .report _ | .print _ => Unit

inductive Routine (ε α : Type) where
  | done (result : Except ε α)
  | ask (request : Request) (next : request.Answer → Routine ε α)

namespace Routine

variable {ε α β : Type}

def bind : Routine ε α → (α → Routine ε β) → Routine ε β
  | .done (.ok a), next => next a
  | .done (.error error), _ => .done (.error error)
  | .ask request rest, next => .ask request fun answer => (rest answer).bind next

instance : Monad (Routine ε) where
  pure a := .done (.ok a)
  bind := bind

/-- Ends with an error. -/
def fail (error : ε) : Routine ε α := .done (.error error)

/-- Asks one thing. -/
def request (request : Request) : Routine ε request.Answer :=
  .ask request fun answer => .done (.ok answer)

/-- Reports an event. -/
def report (event : Event) : Routine ε Unit := request (.report event)

/-- Ends with an error that is made from the cause if an answer is one. -/
def orFail (wrap : SystemError → ε) : Except SystemError α → Routine ε α
  | .ok a => .done (.ok a)
  | .error cause => .done (.error (wrap cause))

/-- Reports the events of a computation and goes on with its outcome. -/
def ofLogged {δ : Type} (wrap : δ → ε) (run : Logged δ α) : Routine ε α := do
  run.events.forM report
  match run.result with
  | .ok a => pure a
  | .error error => fail (wrap error)

end Routine

end PapyrusWriter
