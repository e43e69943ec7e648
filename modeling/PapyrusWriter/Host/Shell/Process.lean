import PapyrusWriter.Host.FileSystem
import PapyrusWriter.Host.Shell.Script
/-!
# Processes

A process has arguments, variables, channels that lead to buffers or files, and the files of its
machine. It goes on until it exits or is killed.
-/

namespace PapyrusWriter.Shell

set_option autoImplicit false

/-- Where the output of a channel goes. -/
inductive Sink where
  | buffer (number : Nat)
  | file (path : String)
deriving DecidableEq

/-- What can be switched on in a process. -/
structure Options where
  /-- A command that fails ends the process. -/
  stopOnError : Bool := false
  /-- A parameter without value is an error. -/
  requireValues : Bool := false
  /-- Commands are shown before they are run. -/
  trace : Bool := false
  /-- Patterns are not replaced by the names of files. -/
  keepPatterns : Bool := false

structure Process where
  files : FileSystem
  /-- The name of the script, and of the program that is run. -/
  name : String
  program : String := ""
  arguments : List String
  bindings : List (String × String) := []
  /-- The variables that the programs see which are run. -/
  exported : List String := []
  constants : List String := []
  functions : List (String × Script) := []
  /-- In a function, the variables that get their values back at its end. -/
  locals : Option (List (String × Option String)) := none
  traps : List (String × String) := []
  options : Options := {}
  status : Nat := 0
  /-- The line of the command that is run, and the command whose text it is in. -/
  line : Nat := 0
  context : Option String := none
  /-- The loops around the command that is run. -/
  loops : Nat := 0
  /-- The status of the last script whose output was taken in the current command. -/
  outputStatus : Option Nat := none
  sinks : List (Nat × Sink) := [(1, .buffer 0), (2, .buffer 1)]
  /-- What was written to the buffers, the last byte of each first. -/
  buffers : List (List UInt8) := [[], []]
  /-- The input that is read from, and what is left of each. -/
  source : Nat := 0
  inputs : List (List UInt8) := [[]]

/-- How a run of commands is left. -/
inductive Stop where
  | exit (status : Nat)
  /-- An error of the shell itself. -/
  | failed
  | killed (signal : Nat)
  | returned (status : Nat)
  /-- Loops are left; if `again`, the last one of them goes on. -/
  | leave (loops : Nat) (again : Bool)
deriving DecidableEq

/-- A computation in a process. -/
abbrev Run := EStateM Stop Process

namespace Run

variable {α : Type}

/-! ## Channels -/

/-- The file system with bytes added to a file. -/
def appendTo (files : FileSystem) (path : String) (bytes : List UInt8) : FileSystem :=
  let old := ((files.readContent path).toOption.map Content.bytes).getD []
  ((files.write path (Content.ofBytes (old ++ bytes))).toOption).getD files

/-- Writes to a channel. -/
def writeBytes (channel : Nat) (bytes : List UInt8) : Run Unit :=
  modify fun p =>
    match p.sinks.lookup channel with
    | some (.buffer number) => { p with buffers := p.buffers.modify number (bytes.reverse ++ ·) }
    | some (.file path) => { p with files := appendTo p.files path bytes }
    | none => p

def write (channel : Nat) (text : String) : Run Unit :=
  writeBytes channel (Text.toBytes text)

/-- Writes a line to the channel for errors. -/
def complain (text : String) : Run Unit := write 2 (text ++ "\n")

/-- What is left of the input. -/
def input : Run (List UInt8) := do
  let p ← get
  return (p.inputs[p.source]?).getD []

/-- Sets what is left of the input. -/
def setInput (bytes : List UInt8) : Run Unit :=
  modify fun p => { p with inputs := p.inputs.set p.source bytes }

/-- Takes all of the input. -/
def takeInput : Run (List UInt8) := do
  let bytes ← input
  setInput []
  return bytes

/-- Reads from another input from here on. -/
def openInput (bytes : List UInt8) : Run Unit :=
  modify fun p => { p with source := p.inputs.length, inputs := p.inputs ++ [bytes] }

/-- Takes what a computation writes to the output instead of passing it on. -/
def captured (action : Run α) : Run (α × List UInt8) := do
  let p ← get
  let number := p.buffers.length
  set { p with buffers := p.buffers ++ [[]], sinks := (1, .buffer number) :: p.sinks }
  let result ← action
  let bytes := (((← get).buffers[number]?).getD []).reverse
  modify fun q => { q with buffers := q.buffers.take number, sinks := p.sinks }
  return (result, bytes)

/-! ## Errors -/

/-- Complains in the name of the program. -/
def complainBy (text : String) : Run Unit := do
  complain ((← get).program ++ ": " ++ text)

/-- Complains in the name of the script and of one of its commands. -/
def complainOf (command text : String) : Run Unit := do
  let p ← get
  complain (p.name ++ ": " ++ toString p.line ++ ": " ++ command ++ ": " ++ text)

/-- Complains in the name of the script, at the line of the command. -/
def complainHere (text : String) : Run Unit := do
  let p ← get
  match p.context with
  | some command => complainOf command text
  | none => complain (p.name ++ ": " ++ toString p.line ++ ": " ++ text)

/-- The status of a process that meets an error of its own. -/
def errorStatus : Nat := 2

/-- Complains and ends the process. -/
def abort (text : String) : Run α := do
  complainHere text
  throw .failed

/-- Runs a computation whose errors do not end the process. -/
def contained (action : Run Nat) : Run Nat := fun p =>
  match action p with
  | .error .failed q => .ok errorStatus { q with context := p.context, line := p.line }
  | result => result

/-! ## Processes of their own -/

/-- The status that a killed process has for others. -/
def statusOfSignal (signal : Nat) : Nat := 128 + signal

/-- A process after another one that came from it: of the changes, those to files, output and input
stay. -/
def rejoin (before after : Process) : Process :=
  { before with
    files := { after.files with here := before.files.here }
    buffers := after.buffers.take before.buffers.length
    inputs := after.inputs.take before.inputs.length }

/-- Runs a computation as a part of the process with a state of its own, and gives its status. A
signal to it is one to the process. -/
def asChild (action : Run Nat) : Run Nat := fun p =>
  match action p with
  | .ok status q | .error (.exit status) q | .error (.returned status) q => .ok status (rejoin p q)
  | .error .failed q => .ok errorStatus (rejoin p q)
  | .error (.killed signal) q => .error (.killed signal) (rejoin p q)
  | .error (.leave _ _) q => .ok 0 (rejoin p q)

/-- The texts for signals that end other processes. -/
def signalTexts : List (Nat × String) :=
  [(1, "Hangup"), (3, "Quit"), (6, "Aborted"), (9, "Killed"), (10, "User defined signal 1"),
    (11, "Segmentation fault"), (12, "User defined signal 2"), (14, "Alarm clock"), (15, "Terminated")]

/-- Runs a computation as another process, and gives its status. -/
def asProcess (action : Run Nat) : Run Nat := fun p =>
  match action p with
  | .ok status q | .error (.exit status) q | .error (.returned status) q => .ok status (rejoin p q)
  | .error .failed q => .ok errorStatus (rejoin p q)
  | .error (.killed signal) q =>
      (do
        if let some text := signalTexts.lookup signal then complain text
        return statusOfSignal signal : Run Nat) (rejoin p q)
  | .error (.leave _ _) q => .ok 0 (rejoin p q)

/-- Runs a computation in which failing commands do not end the process. -/
def guarded (action : Run α) : Run α := do
  let stop := (← get).options.stopOnError
  modify fun p => { p with options := { p.options with stopOnError := false } }
  let result ← action
  modify fun p => { p with options := { p.options with stopOnError := stop } }
  return result

/-! ## Variables -/

def lookup (name : String) : Run (Option String) := do return (← get).bindings.lookup name

/-- Ends the process unless a variable of a name can be changed. -/
def checkName (name : String) : Run Unit := do
  unless isName name.toList do abort (name ++ ": bad variable name")
  if (← get).constants.contains name then abort (name ++ ": is read only")

def setVariable (name value : String) : Run Unit := do
  checkName name
  modify fun p => { p with bindings := (name, value) :: p.bindings.filter (·.1 ≠ name) }

def unsetVariable (name : String) : Run Unit := do
  checkName name
  modify fun p => { p with bindings := p.bindings.filter (·.1 ≠ name) }

/-- Gives a variable its old value back. -/
def restoreVariable (name : String) : Option String → Run Unit
  | some value => setVariable name value
  | none => unsetVariable name

end Run

end PapyrusWriter.Shell
