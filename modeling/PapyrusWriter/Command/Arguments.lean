/-!
# Command line arguments

Each command has options, written `-o` or `--output`, and operands. Options may stand anywhere
before `--`, at most once each. A value follows its option as the next argument, after `=`, or
directly after the letter; letters of options without values can be bundled. Arguments are read from
left to right, so that a request for help counts only if nothing before it is wrong.
-/

namespace PapyrusWriter

set_option autoImplicit false

/-- Why no command is run. -/
inductive Refusal where
  | help
  | misuse
deriving DecidableEq

/-- An option of a command. -/
structure OptionSpec where
  name : String
  letter : Option Char
  takesValue : Bool := false
  allowsEmpty : Bool := false

/-- What a command accepts. -/
structure CommandSpec where
  options : List OptionSpec
  /-- Whether it has one operand, which is a path. -/
  hasOperand : Bool := false

/-- The options and the operand that are given so far. -/
structure Given where
  values : List (String × String) := []
  operand : Option String := none

namespace Given

/-- The value of an option, if the option is given. -/
def value? (given : Given) (name : String) : Option String :=
  given.values.lookup name

/-- Whether an option is given. -/
def has (given : Given) (name : String) : Bool :=
  (given.value? name).isSome

/-- Adds an option with its value. -/
def addOption (given : Given) (option : OptionSpec) (value : String) : Except Refusal Given :=
  if given.has option.name then .error .misuse
  else if option.takesValue && !option.allowsEmpty && value = "" then .error .misuse
  else .ok { given with values := given.values ++ [(option.name, value)] }

/-- Adds the operand. -/
def addOperand (spec : CommandSpec) (given : Given) (text : String) : Except Refusal Given :=
  if !spec.hasOperand || given.operand.isSome || text = "" then .error .misuse
  else .ok { given with operand := some text }

end Given

namespace Arguments

/-- Every command answers a request for help. -/
def helpOption : OptionSpec := { name := "help", letter := some 'h' }

/-- Takes up an option without value. -/
def addFlag (given : Given) (option : OptionSpec) : Except Refusal Given :=
  if option.name = helpOption.name then .error .help else given.addOption option ""

/-- Takes up a bundle of letters. The option whose value has to follow is left open. -/
def bundle (options : List OptionSpec) (given : Given) :
    List Char → Except Refusal (Given × Option OptionSpec)
  | [] => .ok (given, none)
  | letter :: rest => do
      match options.find? (·.letter = some letter) with
      | none => throw .misuse
      | some option =>
          if option.takesValue then
            match rest with
            | [] => return (given, some option)
            | '=' :: value => return (← given.addOption option (String.ofList value), none)
            | value => return (← given.addOption option (String.ofList value), none)
          else bundle options (← addFlag given option) rest

/-- The name and the value of a long option. -/
def splitLong (text : List Char) : String × Option String :=
  let name := text.takeWhile (· ≠ '=')
  match text.drop name.length with
  | [] => (String.ofList name, none)
  | _ :: value => (String.ofList name, some (String.ofList value))

/-- Takes up a long option. -/
def long (options : List OptionSpec) (given : Given) (text : List Char) :
    Except Refusal (Given × Option OptionSpec) := do
  let (name, value) := splitLong text
  match options.find? (·.name = name) with
  | none => throw .misuse
  | some option =>
      match option.takesValue, value with
      | true, none => return (given, some option)
      | true, some value => return (← given.addOption option value, none)
      | false, none => return (← addFlag given option, none)
      | false, some _ => throw .misuse

/-- Whether an argument cannot be the value of an option before it. -/
def isDashed (text : String) : Bool :=
  match text.toList with
  | '-' :: _ :: _ => true
  | _ => false

/-- Takes up arguments after `--`. -/
def operands (spec : CommandSpec) : List String → Given → Except Refusal Given
  | [], given => .ok given
  | text :: rest, given => do operands spec rest (← given.addOperand spec text)

/-- Takes up the arguments of a command; `pending` is the option whose value comes next. -/
def take (spec : CommandSpec) : Option OptionSpec → List String → Given → Except Refusal Given
  | none, [], given => .ok given
  | some _, [], _ => .error .misuse
  | some option, text :: rest, given =>
      if isDashed text then .error .misuse
      else do take spec none rest (← given.addOption option text)
  | none, text :: rest, given => do
      match text.toList with
      | ['-', '-'] => operands spec rest given
      | '-' :: '-' :: name =>
          let (given, pending) ← long (helpOption :: spec.options) given name
          take spec pending rest given
      | '-' :: letter :: letters =>
          let (given, pending) ← bundle (helpOption :: spec.options) given (letter :: letters)
          take spec pending rest given
      | _ => take spec none rest (← given.addOperand spec text)

end Arguments

/-- The arguments of a command. -/
def CommandSpec.parse (spec : CommandSpec) (arguments : List String) : Except Refusal Given :=
  Arguments.take spec none arguments {}

end PapyrusWriter
