import PapyrusWriter.Host.Shell.Arithmetic
import PapyrusWriter.Host.Shell.Builtin
import PapyrusWriter.Host.Shell.Redirection
/-!
# Running scripts

Commands are run one after the other. Words are expanded first: parameters, outputs of scripts and
arithmetic expressions take the place of their marks. Fuel bounds the number of steps.
-/

namespace PapyrusWriter.Shell

set_option autoImplicit false

mutual

/-- Expands a word into fields. -/
def expand : Nat → Word → Fields → Run Fields
  | 0, _, fields => pure fields
  | _, [], fields => pure fields
  | fuel + 1, piece :: rest, fields => do
      let p ← get
      let next ←
        match piece with
        | .text chars quoted =>
            pure (if fields.splitsTexts then addValue p quoted fields chars
              else fields.add (marked quoted chars))
        | .parameter name modifier quoted => expandParameter fuel name modifier quoted fields
        | .output script line quoted => do
            pure (addValue p quoted fields (← outputOf fuel script line))
        | .arithmetic text quoted => do
            pure (addValue p quoted fields (← arithmeticOf fuel text))
      expand fuel rest next

/-- Expands a parameter into fields. -/
def expandParameter : Nat → String → Modifier → Bool → Fields → Run Fields
  | 0, _, _, _, fields => pure fields
  | fuel + 1, name, modifier, quoted, fields => do
      let p ← get
      let value := parameterValue? p name
      let missing (orEmpty : Bool) : Bool := value.all fun text => orEmpty && text = ""
      let held := (value.getD "").toList
      let keep : Run Fields :=
        if name = "@" || (name = "*" && !quoted && !fields.whole) then
          pure (addArguments p quoted fields)
        else pure (addValue p quoted fields held)
      let other (text : List Char) : Run Fields := do
        match wordIn quoted p.line text with
        | .ok word =>
            let start := if quoted then fields.add [] else fields
            let result ← expand fuel word { start with splitsTexts := !quoted }
            return { result with splitsTexts := fields.splitsTexts }
        | .error message => Run.abort ("Syntax error: " ++ message)
      let cut (drop : List Marked → List Char → List Char) (pattern : List Char) : Run Fields := do
        match wordIn false p.line pattern with
        | .ok word => return addValue p quoted fields (drop (← expandOne fuel word) held)
        | .error message => Run.abort ("Syntax error: " ++ message)
      if value.isNone && p.options.requireValues && !isOptional name then
        match modifier with
        | .none | .length | .dropStart _ _ | .dropEnd _ _ => Run.abort (name ++ ": parameter not set")
        | _ => pure ()
      match modifier with
      | .none => keep
      | .length => pure (addValue p quoted fields (toString (value.getD "").utf8ByteSize).toList)
      | .default orEmpty text => if missing orEmpty then other text else keep
      | .alternative orEmpty text => if missing orEmpty then pure fields else other text
      | .assign orEmpty text =>
          if missing orEmpty then
            match wordIn quoted p.line text with
            | .ok word =>
                let new ← expandOne fuel word
                Run.setVariable name (plain new)
                return addValue p quoted fields (unmarked new)
            | .error message => Run.abort ("Syntax error: " ++ message)
          else keep
      | .required orEmpty text =>
          if missing orEmpty then
            let message ←
              match wordIn quoted p.line text with
              | .ok word => pure (plain (← expandOne fuel word))
              | .error message => pure message
            let standard := "parameter not set" ++ (if orEmpty then " or null" else "")
            Run.abort (name ++ ": " ++ (if text = [] then standard else message))
          else keep
      | .dropStart longest pattern => cut (dropStart longest) pattern
      | .dropEnd longest pattern => cut (dropEnd longest) pattern
      | .unknown => Run.abort "Bad substitution"

/-- What a script writes. -/
def outputOf : Nat → List Char → Nat → Run (List Char)
  | 0, _, _ => pure []
  | fuel + 1, text, line => do
      let (status, bytes) ← Run.captured (asSubshell fuel (runAll fuel (parse line text)))
      modify fun p => { p with outputStatus := some status }
      return outputText bytes

/-- The value of an arithmetic expression. -/
def arithmeticOf : Nat → List Char → Run (List Char)
  | 0, _ => pure []
  | fuel + 1, text => do
      let p ← get
      match textPieces p.line text with
      | .error message => Run.abort ("Syntax error: " ++ message)
      | .ok word =>
          let expanded := unmarked (← expandOne fuel word)
          match Arithmetic.value (parameterValue? (← get)) expanded with
          | .error fault => Run.abort (fault.message expanded)
          | .ok (value, changes) =>
              changes.reverse.forM fun (name, value) => Run.setVariable name (toString value)
              return (toString value).toList

/-- Expands words into texts. -/
def expandAll : Nat → List Word → Run (List String)
  | 0, _ => pure []
  | _, [] => pure []
  | fuel + 1, word :: rest => do
      let fields ← expand fuel (withHome (← get) word) {}
      let p ← get
      let texts := fields.toList.flatMap fun field =>
        if p.options.keepPatterns then [plain field] else fileNames p.files field
      return texts ++ (← expandAll fuel rest)

/-- Expands a word into one text. -/
def expandOne : Nat → Word → Run (List Marked)
  | 0, _ => pure []
  | fuel + 1, word => do
      let fields ← expand fuel (withHome (← get) word) { whole := true }
      return fields.toList.flatten

/-- Runs a computation in a process that starts as this one does, without its traps. -/
def asSubshell : Nat → Run Nat → Run Nat
  | 0, action => Run.asChild action
  | fuel + 1, action =>
      Run.asChild do
        modify fun p => { p with traps := [] }
        untilExit fuel action

/-- Runs a computation and then what is to be done at the exit. -/
def untilExit : Nat → Run Nat → Run Nat
  | 0, action => action
  | fuel + 1, action => fun p =>
      let last (status : Nat) (q : Process) : EStateM.Result Stop Process Nat :=
        match q.traps.lookup "EXIT" with
        | none => .ok status q
        | some text =>
            (do
              modify fun r => { r with traps := [], status, context := none }
              let _ ← runAll fuel (parse 1 text.toList)
              return status : Run Nat) q
      match action p with
      | .ok status q | .error (.exit status) q | .error (.returned status) q => last (status % 256) q
      | .error .failed q => last Run.errorStatus q
      | result => result

/-- Runs a script with a state of its own, which has only the variables that are passed on. -/
def runShell : Nat → String → List String → Options → Nat → List Char → Run Nat
  | 0, _, _, _, _, _ => pure 0
  | fuel + 1, name, arguments, options, line, text => do
      modify fun p =>
        { p with
          name, arguments, options, line, context := none, functions := [], traps := [], locals := none
          loops := 0, status := 0, constants := []
          bindings := p.bindings.filter fun entry => p.exported.contains entry.1 }
      untilExit fuel (runAll fuel (parse line text))

/-- Runs the program for scripts with its arguments. -/
def runScript : Nat → List String → Run Nat
  | 0, _ => pure 0
  | fuel + 1, arguments => do
      let found := switches ['c', 'l'] (arguments.length + 1) { options := {} } arguments
      if let some option := found.unknown then
        Run.complainBy ("0: " ++ illegalOption option)
        return Run.errorStatus
      let run (name : String) (arguments : List String) (text : List Char) : Run Nat :=
        runShell fuel name arguments found.options 1 text
      let runInput (arguments : List String) : Run Nat := do
        run (← get).program arguments (Text.ofBytesLossy (← Run.takeInput)).toList
      match found.letters.contains 'c', found.letters.contains 's', found.rest.getD [] with
      | true, _, text :: rest => do run (rest.headD (← get).program) (rest.drop 1) text.toList
      | true, _, [] =>
          Run.complainBy "0: -c requires an argument"
          return Run.errorStatus
      | false, true, rest => runInput rest
      | false, false, [] => runInput []
      | false, false, path :: rest =>
          match (← get).files.readContent path with
          | .ok content => run path rest (scriptText content)
          | .error cause =>
              let reason := if cause = .notFound then "No such file" else cause.text
              Run.complainBy ("0: cannot open " ++ path ++ ": " ++ reason)
              return Run.errorStatus

/-- Runs a program of the system in place of the process. -/
def runProgram : Nat → Launch → Run Nat
  | 0, _ => pure 0
  | fuel + 1, ⟨name, called, arguments⟩ => do
      modify fun p => { p with program := called }
      match (if shells.contains name then "sh" else name), arguments with
      | "sh", _ => runScript fuel arguments
      | "env", _ =>
          let arguments := splitFirst arguments
          let settings := arguments.takeWhile (·.toList.contains '=')
          settings.forM fun setting => do
            let name ← assignArgument setting
            modify fun p => { p with exported := name :: p.exported }
          match arguments.drop settings.length with
          | [] =>
              let p ← get
              (p.bindings.filter fun entry => p.exported.contains entry.1).forM fun (name, value) =>
                Run.write 1 (name ++ "=" ++ value ++ "\n")
              return 0
          | command :: rest =>
              if command.toList.contains '/' then runPath fuel command rest
              else if Machine.programNames.contains command then runProgram fuel ⟨command, command, rest⟩
              else
                Run.complainBy ("'" ++ command ++ "': " ++ SystemError.notFound.text)
                if command.toList.any isBlank then
                  Run.complainBy "use -[v]S to pass options in shebang lines"
                return 127
      | _, _ =>
          match Tool.byName.lookup name with
          | some tool => tool arguments
          | none => return 127

/-- Runs a file. One without the mark of its program is a script. -/
def runPath : Nat → String → List String → Run Nat
  | 0, _, _ => pure 0
  | fuel + 1, path, arguments => do
      match programOf interpreterLimit (← get).files path with
      | .ok launch => runProgram fuel { launch with arguments := launch.arguments ++ arguments }
      | .error .execFormat => runScript fuel (path :: arguments)
      | .error .notFound => do
          Run.complainHere (path ++ ": not found")
          return 127
      | .error cause => do
          Run.complainHere (path ++ ": " ++ cause.text)
          return 126

/-- Runs a program by its name or path, in place of the process. -/
def runExternal : Nat → String → List String → Run Nat
  | 0, _, _ => pure 0
  | fuel + 1, name, arguments => do
      if name.toList.contains '/' then runPath fuel name arguments
      else if Machine.programNames.contains name then runProgram fuel ⟨name, name, arguments⟩
      else
        Run.complainHere (name ++ ": not found")
        return 127

/-- Gets a signal. -/
def getSignal : Nat → Nat → Run Nat
  | 0, _ => pure 0
  | fuel + 1, signal => do
      match (← get).traps.lookup (signalName signal) with
      | some text =>
          if signal = killSignal then throw (.killed signal)
          let status := (← get).status
          let _ ← runAll fuel (parse 1 text.toList)
          modify fun p => { p with status }
          return 0
      | none =>
          if harmlessSignals.contains signal then return 0
          throw (.killed signal)

/-- Runs a command of the shell. -/
def runBuiltin : Nat → Builtin → List String → Run Nat
  | 0, _, _ => pure 0
  | fuel + 1, builtin, arguments => do
      match builtin, arguments with
      | .direct action, _ => action arguments
      | .eval, _ => runAll fuel (parse 1 (" ".intercalate arguments).toList)
      | .exec, [] => return 0
      | .exec, name :: rest =>
          modify fun p => { p with traps := [] }
          throw (.exit (← runExternal fuel name rest))
      | .script, [] => Run.abort "filename argument required"
      | .script, path :: _ =>
          match (← get).files.readContent path with
          | .error cause =>
              let reason := if cause = .notFound then "No such file" else cause.text
              Run.abort ("cannot open " ++ path ++ ": " ++ reason)
          | .ok content =>
              untilReturn (within path (runAll fuel (parse 1 (scriptText content))))
      | .command, [] | .command, ["-v"] | .command, ["-V"] => return 0
      | .command, "-v" :: name :: _ => describe false name
      | .command, "-V" :: name :: _ => describe true name
      | .command, name :: rest =>
          match (specials ++ regulars).lookup name with
          | some builtin => Run.contained (within name (runBuiltin fuel builtin rest))
          | none => Run.asProcess (runExternal fuel name rest)
      | .kill, _ =>
          match signalOrder arguments with
          | .usage =>
              Run.abort
                ("Usage: kill [-s sigspec | -signum | -sigspec] [pid | job]... or\nkill -l [exitstatus]")
          | .unknown option => Run.abort (illegalOption option)
          | .tell number => do
              Run.write 1 (signalName ((← numberArgument number) % 128) ++ "\n")
              return 0
          | .send signal targets =>
              Tool.forAll (fun target => do
                if target = processNumber then return ← getSignal fuel signal
                if target.toList.head? = some '%' then Run.abort ("No such job: " ++ target)
                let _ ← numberArgument target
                Run.complainHere "No such process\n"
                return 1) targets

/-- Runs the words of a simple command. -/
def runWords : Nat → List String → Run Nat
  | 0, _ => pure 0
  | _, [] => return (← get).outputStatus.getD 0
  | fuel + 1, name :: arguments => do
      match specials.lookup name, (← get).functions.lookup name, regulars.lookup name with
      | some builtin, _, _ => within name (runBuiltin fuel builtin arguments)
      | none, some body, _ => called arguments (run fuel body)
      | none, none, some .command => runBuiltin fuel .command arguments
      | none, none, some builtin => Run.contained (within name (runBuiltin fuel builtin arguments))
      | none, none, none =>
          if name = "local" then within name (localCommand arguments)
          else Run.asProcess (runExternal fuel name arguments)

/-- Sets variables. Gives them as they are shown, and their old values. -/
def assignAll : Nat → List (String × Word) → Run (List (String × String × Option String))
  | 0, _ => pure []
  | _, [] => pure []
  | fuel + 1, (name, word) :: rest => do
      let value := plain (← expandOne fuel word)
      let old ← Run.lookup name
      Run.setVariable name value
      return (name, value, old) :: (← assignAll fuel rest)

/-- Sets up redirections; tells whether all are possible. -/
def redirectAll : Nat → List Redirect → Run Bool
  | 0, _ => pure true
  | _, [] => pure true
  | fuel + 1, ⟨channel, kind, target⟩ :: rest => do
      let path := plain (← expandOne fuel target)
      if ← redirect channel kind path then redirectAll fuel rest else return false

/-- Runs a command with redirections, which end with it. -/
def redirected : Nat → Nat → List Redirect → Script → Run Nat
  | 0, _, _, _ => pure 0
  | fuel + 1, line, redirects, inner => do
      let p ← get
      unless redirects.isEmpty do set { p with line }
      let status ← if ← redirectAll fuel redirects then run fuel inner else pure Run.errorStatus
      modify fun q => { q with sinks := p.sinks, source := p.source }
      return status

/-- Runs a simple command. -/
def runSimple : Nat → Nat → List (String × Word) → List Word → List Redirect → Run Nat
  | 0, _, _, _, _ => pure 0
  | fuel + 1, line, assignments, words, redirects => do
      modify fun p => { p with line, outputStatus := none }
      let texts ← expandAll fuel words
      let before ← get
      let special := texts.head?.any fun name => (specials.lookup name).isSome
      let ready ← redirectAll fuel redirects
      let status ←
        if ready then do
          let changes ← assignAll fuel assignments
          if (← get).options.trace then
            let shown := changes.map (fun (name, value, _) => name ++ "=" ++ value) ++ texts
            let mark := ((← get).bindings.lookup "PS4").getD "+ "
            unless shown.isEmpty do Run.complain (mark ++ " ".intercalate shown)
          let names := changes.map Prod.fst
          let lasting := texts.isEmpty || special
          unless lasting do modify fun p => { p with exported := names ++ p.exported }
          let status ← runWords fuel texts
          unless lasting do
            changes.reverse.forM fun (name, _, old) => Run.restoreVariable name old
            modify fun p => { p with exported := before.exported }
          pure status
        else if special then throw .failed
        else pure Run.errorStatus
      modify fun p =>
        if texts = ["exec"] then p else { p with sinks := before.sinks, source := before.source }
      return status

/-- Runs a body for each value of a variable. -/
def runEach : Nat → String → List String → Script → Nat → Run Nat
  | 0, _, _, _, status => pure status
  | _, _, [], _, status => pure status
  | fuel + 1, name, value :: rest, body, _ => do
      Run.setVariable name value
      match ← turn (run fuel body) with
      | .next status => runEach fuel name rest body status
      | .stop status => pure status

/-- Runs a body while a test has an outcome. -/
def runLoop : Nat → Bool → Script → Script → Nat → Run Nat
  | 0, _, _, _, status => pure status
  | fuel + 1, whileTrue, test, body, status => do
      match ← turn (Run.guarded (run fuel test)) with
      | .stop status => pure status
      | .next outcome =>
          if (outcome == 0) == whileTrue then
            match ← turn (run fuel body) with
            | .next status => runLoop fuel whileTrue test body status
            | .stop status => pure status
          else pure status

/-- Runs the first branch that accepts a text. -/
def runBranches : Nat → List Char → List (List Word × Script) → Run Nat
  | 0, _, _ => pure 0
  | _, _, [] => pure 0
  | fuel + 1, text, (patterns, body) :: rest => do
      if ← anyAccepts fuel text patterns then run fuel body else runBranches fuel text rest

def anyAccepts : Nat → List Char → List Word → Run Bool
  | 0, _, _ => pure false
  | _, _, [] => pure false
  | fuel + 1, text, pattern :: rest => do
      if accepts (← expandOne fuel pattern) text then return true else anyAccepts fuel text rest

/-- Runs a script and gives its status. -/
def run : Nat → Script → Run Nat
  | 0, _ => pure 0
  | fuel + 1, script => do
      let checked (action : Run Nat) : Run Nat := do
        let status ← action
        if status ≠ 0 && (← get).options.stopOnError then throw (.exit status)
        return status
      let status ←
        match script with
        | .nothing => pure (← get).status
        | .simple line assignments words redirects =>
            checked (runSimple fuel line assignments words redirects)
        | .sequence first second => do
            let _ ← run fuel first
            run fuel second
        | .both first second => do
            let status ← Run.guarded (run fuel first)
            if status = 0 then run fuel second else pure status
        | .either first second => do
            let status ← Run.guarded (run fuel first)
            if status = 0 then pure status else run fuel second
        | .negated inner => do
            let status ← Run.guarded (run fuel inner)
            pure (if status = 0 then 1 else 0)
        | .pipe first second =>
            checked do
              let (_, bytes) ← Run.captured (asSubshell fuel (run fuel first))
              let p ← get
              Run.openInput bytes
              let status ← asSubshell fuel (run fuel second)
              modify fun q => { q with source := p.source, inputs := q.inputs.take p.inputs.length }
              pure status
        | .background inner => do
            let p ← get
            Run.openInput []
            let _ ← asSubshell fuel (run fuel inner)
            modify fun q => { q with source := p.source }
            pure 0
        | .group line inner redirects => redirected fuel line redirects inner
        | .subshell line inner redirects =>
            checked (asSubshell fuel (redirected fuel line redirects inner))
        | .condition test yes no => do
            let outcome ← Run.guarded (run fuel test)
            modify fun p => { p with status := 0 }
            if outcome = 0 then run fuel yes else run fuel no
        | .loop whileTrue test body => runLoop fuel whileTrue test body 0
        | .each name words body => do
            let values ← expandAll fuel words
            runEach fuel name values body 0
        | .choice word branches => do
            let text := unmarked (← expandOne fuel word)
            runBranches fuel text branches
        | .function name body => do
            modify fun p => { p with functions := (name, body) :: p.functions }
            pure 0
      modify fun p => { p with status }
      pure status

/-- Runs the commands of a program up to its fault, if it has one. -/
def runAll : Nat → Program → Run Nat
  | 0, _ => pure 0
  | fuel + 1, program => do
      match program.commands, program.fault with
      | [], none => return (← get).status
      | [], some fault =>
          modify fun p => { p with line := fault.line }
          Run.abort ("Syntax error: " ++ fault.message)
      | first :: rest, fault =>
          let _ ← run fuel first
          runAll fuel ⟨rest, fault⟩

end

end PapyrusWriter.Shell
