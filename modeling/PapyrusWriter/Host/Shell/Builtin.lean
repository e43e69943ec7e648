import PapyrusWriter.Host.Machine
import PapyrusWriter.Host.Shell.Grammar
import PapyrusWriter.Host.Shell.Launch
import PapyrusWriter.Host.Shell.Parameter
import PapyrusWriter.Host.Shell.Signal
import PapyrusWriter.Host.Shell.Tools
/-!
# Commands of the shell

The commands that change the process itself. Those that run other commands are only named here.
-/

namespace PapyrusWriter.Shell

set_option autoImplicit false

/-- A command of the shell. -/
inductive Builtin where
  | direct (action : Tool)
  /-- Runs its arguments as a script. -/
  | eval
  /-- Runs a program in place of the process. -/
  | exec
  /-- Runs the script of a file in the same process. -/
  | script
  /-- Runs a command that is not a function. -/
  | command
  /-- Sends a signal. -/
  | kill

/-! ## Arguments -/

/-- The number that an argument must be; blanks around it do not count. -/
def numberArgument (text : String) : Run Nat := do
  match Tool.testNumber text with
  | .ok (.ofNat number) =>
      if number < 0x80000000 then return number else Run.abort ("Illegal number: " ++ text)
  | _ => Run.abort ("Illegal number: " ++ text)

/-- The number that the first argument is, if there is one. -/
def numberOr (standard : Nat) (arguments : List String) : Run Nat :=
  arguments.head?.elim (pure standard) numberArgument

/-- A text as `name=value`. -/
def splitAssignment (text : String) : String × Option String :=
  let name := text.toList.takeWhile (· ≠ '=')
  match text.toList.drop name.length with
  | _ :: value => (String.ofList name, some (String.ofList value))
  | [] => (text, none)

/-- Sets a variable if a value is given, and gives its name. -/
def assignArgument (text : String) : Run String := do
  let (name, value) := splitAssignment text
  match value with
  | some value => Run.setVariable name value
  | none => unless isName name.toList do Run.abort (name ++ ": bad variable name")
  return name

/-- The arguments that are not options. -/
def operandsOf (arguments : List String) : List String :=
  arguments.filter (·.toList.head? ≠ some '-')

/-- A text in single quotes, so that a script can have it. -/
def inQuotes (text : String) : String :=
  "'" ++ String.ofList (text.toList.flatMap fun c => if c = '\'' then "'\"'\"'".toList else [c]) ++ "'"

/-! ## Leaving -/

def exitCommand : Tool := fun arguments => do
  throw (.exit ((← numberOr (← get).status arguments) % 256))

def returnCommand : Tool := fun arguments => do
  throw (.returned (← numberOr (← get).status arguments))

/-- Leaves loops. -/
def leaveCommand (again : Bool) : Tool := fun arguments => do
  let count ← numberOr 1 arguments
  if count = 0 then Run.abort ("Illegal number: " ++ arguments.headD "")
  let loops := (← get).loops
  if loops = 0 then return 0
  throw (.leave (min count loops) again)

/-! ## Arguments and options of the process -/

def shiftCommand : Tool := fun arguments => do
  let count ← numberOr 1 arguments
  let p ← get
  if p.arguments.length < count then Run.abort "can't shift that many"
  set { p with arguments := p.arguments.drop count }
  return 0

/-- The letters of options. -/
def optionsKnown : List Char := "aefnuvxCbmIiVEs".toList

/-- The options with one switched on or off. -/
def Options.switch (options : Options) (on : Bool) : Char → Options
  | 'e' => { options with stopOnError := on }
  | 'u' => { options with requireValues := on }
  | 'x' => { options with trace := on }
  | 'f' => { options with keepPatterns := on }
  | _ => options

/-- The letters of options that also have names. -/
def optionNames : List (String × Char) :=
  [("errexit", 'e'), ("noglob", 'f'), ("ignoreeof", 'I'), ("interactive", 'i'), ("monitor", 'm'),
    ("noexec", 'n'), ("stdin", 's'), ("xtrace", 'x'), ("verbose", 'v'), ("vi", 'V'), ("emacs", 'E'),
    ("noclobber", 'C'), ("allexport", 'a'), ("notify", 'b'), ("nounset", 'u')]

/-- What arguments say of options. -/
structure Switches where
  options : Options
  /-- The letters that are given. -/
  letters : List Char := []
  /-- The arguments after the options, if there are any or all are replaced. -/
  rest : Option (List String) := none
  /-- An option that is not known. -/
  unknown : Option String := none

/-- The options that arguments switch. Letters of `others` are known too. -/
def switches (others : List Char) : Nat → Switches → List String → Switches
  | 0, found, _ => found
  | _, found, [] => found
  | fuel + 1, found, argument :: rest =>
      let on := argument.toList.head? = some '-'
      match argument.toList, rest with
      | ['-', '-'], _ => { found with rest := some rest }
      | ['-'], _ => { found with rest := if rest = [] then none else some rest }
      | ['-', 'o'], name :: rest | ['+', 'o'], name :: rest =>
          match optionNames.lookup name with
          | some letter =>
              switches others fuel { found with options := found.options.switch on letter } rest
          | none => { found with unknown := some ("-o " ++ name) }
      | '-' :: letters, _ | '+' :: letters, _ =>
          match letters.find? fun c => !(optionsKnown ++ others).contains c with
          | some c => { found with unknown := some (String.ofList ['-', c]) }
          | none =>
              switches others fuel
                { found with
                  options := letters.foldl (fun options c => options.switch on c) found.options
                  letters := found.letters ++ letters } rest
      | _, _ => { found with rest := some (argument :: rest) }

def illegalOption (option : String) : String := "Illegal option " ++ option

def setCommand : Tool := fun arguments => do
  let p ← get
  let found := switches [] (arguments.length + 1) { options := p.options } arguments
  if let some option := found.unknown then Run.abort (illegalOption option)
  set { p with options := found.options, arguments := found.rest.getD p.arguments }
  return 0

/-! ## Variables -/

def exportCommand : Tool := fun arguments => do
  let names ← (operandsOf arguments).mapM assignArgument
  modify fun p => { p with exported := names ++ p.exported }
  return 0

def constantCommand : Tool := fun arguments => do
  let names ← (operandsOf arguments).mapM assignArgument
  modify fun p => { p with constants := names ++ p.constants }
  return 0

def unsetCommand : Tool := fun arguments => do
  let names := operandsOf arguments
  if arguments.contains "-f" then
    modify fun p =>
      { p with functions := p.functions.filter fun entry => !names.contains entry.1 }
  else names.forM Run.unsetVariable
  return 0

/-- Makes a variable the function's own. -/
def makeLocal (text : String) : Run Unit := do
  let (name, value) := splitAssignment text
  let p ← get
  match p.locals with
  | none => Run.abort "not in a function"
  | some saved =>
      set { p with locals := some ((name, p.bindings.lookup name) :: saved) }
      if let some value := value then Run.setVariable name value

def localCommand : Tool := fun arguments => do
  arguments.forM makeLocal
  return 0

/-- Reads a line of the input into variables. -/
def readCommand : Tool := fun arguments => do
  let call := Tool.callOf "p" arguments
  if call.operands = [] then Run.abort "arg count"
  let raw := call.has 'r'
  let (bytes, rest, ended) := inputLine raw (← Run.input)
  Run.setInput rest
  let line := lineChars raw (Text.ofBytesLossy bytes).toList
  (lineValues (separatorsOf (← get)) call.operands line).forM fun (name, value) =>
    Run.setVariable name value
  return if ended then 0 else 1

/-! ## Traps -/

/-- Sets what is done for a signal, or takes it back for a dash. -/
def setTrap (action name : String) : Run Nat := do
  match signal? name with
  | none =>
      Run.complain ("trap: " ++ name ++ ": bad trap")
      return 1
  | some signal =>
      let name := signalName signal
      modify fun p =>
        let others := p.traps.filter (·.1 ≠ name)
        { p with traps := if action = "-" then others else (name, action) :: others }
      return 0

def trapCommand : Tool := fun arguments => do
  match if arguments.head? = some "--" then arguments.drop 1 else arguments with
  | [] =>
      let traps := (← get).traps
      signalNames.forM fun (name, _) => do
        if let some action := traps.lookup name then
          Run.write 1 ("trap -- " ++ inQuotes action ++ " " ++ name ++ "\n")
      return 0
  | [name] => setTrap "-" name
  | action :: names => Tool.forAll (setTrap action) names

/-! ## The directory -/

def directoryCommand : Tool := fun arguments => do
  let p ← get
  let target := arguments.headD (homeOf p)
  match p.files.find target with
  | .ok (location, .directory _) =>
      set { p with files := { p.files with here := location } }
      return 0
  | _ => Run.abort ("can't cd to " ++ target)

/-! ## Names -/

/-- The commands whose errors end the process, but for those that tell what names stand for. -/
def specials : List (String × Builtin) :=
  [(".", .script), (":", .direct (Tool.silent 0)), ("break", .direct (leaveCommand false)),
    ("continue", .direct (leaveCommand true)), ("eval", .eval), ("exec", .exec),
    ("exit", .direct exitCommand), ("export", .direct exportCommand),
    ("readonly", .direct constantCommand), ("return", .direct returnCommand),
    ("set", .direct setCommand), ("shift", .direct shiftCommand),
    ("times", .direct (Tool.silent 0)), ("trap", .direct trapCommand), ("unset", .direct unsetCommand)]

/-- The other commands of the shell. -/
def regularNames : List String :=
  ["alias", "bg", "cd", "chdir", "command", "fg", "getopts", "hash", "jobs", "kill", "local", "read",
    "type", "ulimit", "umask", "unalias", "wait"] ++ Tool.builtins.map Prod.fst

/-- What a name stands for. -/
inductive Meaning where
  | keyword
  | special
  | function
  | regular
  | program (path : String)

/-- What a name stands for, if it is known. -/
def meaning? (p : Process) (name : String) : Option Meaning :=
  if Parse.keywords.contains name then some .keyword
  else if (specials.lookup name).isSome then some .special
  else if (p.functions.lookup name).isSome then some .function
  else if regularNames.contains name then some .regular
  else if name.toList.contains '/' then
    match programOf interpreterLimit p.files name with
    | .ok _ | .error .execFormat => some (.program name)
    | .error _ => none
  else if Machine.programNames.contains name then some (.program (programPath name))
  else none

/-- What a name stands for, as it is told. -/
def Meaning.text : Meaning → String
  | .keyword => "a shell keyword"
  | .special => "a special shell builtin"
  | .function => "a shell function"
  | .regular => "a shell builtin"
  | .program path => path

/-- Tells what a name stands for, in a sentence or by the name or path alone. -/
def describe (sentence : Bool) (name : String) : Run Nat := do
  match meaning? (← get) name, sentence with
  | some meaning, true =>
      Run.write 1 (name ++ " is " ++ meaning.text ++ "\n")
      return 0
  | some (.program path), false =>
      Run.write 1 (path ++ "\n")
      return 0
  | some _, false =>
      Run.write 1 (name ++ "\n")
      return 0
  | none, true =>
      Run.write 1 (name ++ ": not found\n")
      return 127
  | none, false => return 127

/-- The commands whose errors do not end the process. -/
def regulars : List (String × Builtin) :=
  [("alias", .direct (Tool.silent 0)), ("bg", .direct (Tool.silent 0)),
    ("cd", .direct directoryCommand), ("chdir", .direct directoryCommand), ("command", .command),
    ("fg", .direct (Tool.silent 0)), ("hash", .direct (Tool.silent 0)),
    ("jobs", .direct (Tool.silent 0)), ("kill", .kill), ("read", .direct readCommand),
    ("type", .direct (Tool.forAll (describe true))), ("ulimit", .direct (Tool.silent 0)),
    ("umask", .direct (Tool.silent 0)), ("unalias", .direct (Tool.silent 0)),
    ("wait", .direct (Tool.silent 0))] ++
  Tool.builtins.map fun (name, tool) => (name, .direct tool)

/-! ## Loops, functions and texts -/

/-- How a loop goes on after its body. -/
inductive Turn where
  | next (status : Nat)
  | stop (status : Nat)

/-- Runs the body of a loop. -/
def turn (body : Run Nat) : Run Turn := fun p =>
  match body { p with loops := p.loops + 1 } with
  | .ok status q => .ok (.next status) { q with loops := p.loops }
  | .error (.leave loops again) q =>
      let q := { q with loops := p.loops, context := p.context }
      if 1 < loops then .error (.leave (loops - 1) again) q
      else .ok (if again then .next 0 else .stop 0) q
  | .error stop q => .error stop q

/-- The bindings with old values of variables in place again. -/
def restored (saved : List (String × Option String)) (bindings : List (String × String)) :
    List (String × String) :=
  saved.foldl (fun bindings (name, old) =>
    let others := bindings.filter (·.1 ≠ name)
    old.elim others fun value => (name, value) :: others) bindings

/-- Runs the body of a function with arguments of its own. -/
def called (arguments : List String) (body : Run Nat) : Run Nat := fun p =>
  let back (q : Process) : Process :=
    { q with
      arguments := p.arguments, locals := p.locals, loops := p.loops, context := p.context
      bindings := restored (q.locals.getD []) q.bindings }
  match body { p with arguments, locals := some [], loops := 0 } with
  | .ok status q | .error (.returned status) q => .ok status (back q)
  | .error stop q => .error stop q

/-- Runs a computation inside of a command, which errors name. -/
def within (context : String) (body : Run Nat) : Run Nat := do
  let p ← get
  set { p with context := some context }
  let status ← body
  modify fun q => { q with context := p.context, line := p.line }
  return status

/-- Runs the script of a file, which a return ends. -/
def untilReturn (body : Run Nat) : Run Nat := fun p =>
  match body p with
  | .error (.returned status) q => .ok status { q with context := p.context, line := p.line }
  | result => result

/-! ## Signals to send -/

/-- What a command that sends signals is to do. -/
inductive SignalOrder where
  | send (signal : Nat) (targets : List String)
  | tell (number : String)
  | usage
  | unknown (option : String)

/-- What the arguments of a command that sends signals say. -/
def signalOrder (arguments : List String) : SignalOrder :=
  let send (name : String) (targets : List String) : SignalOrder :=
    match signal? name, targets with
    | _, [] => .usage
    | some signal, _ => .send signal targets
    | none, _ => .unknown (String.ofList (('-' :: name.toList).take 2))
  match arguments with
  | "-l" :: number :: _ => .tell number
  | "-s" :: name :: targets => send name targets
  | first :: targets =>
      match first.toList with
      | ['-', '-'] => send "TERM" targets
      | '-' :: name => send (String.ofList name) targets
      | _ => send "TERM" arguments
  | [] => .usage

end PapyrusWriter.Shell
