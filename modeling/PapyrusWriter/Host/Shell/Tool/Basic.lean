import PapyrusWriter.Host.Shell.Process
/-!
# Programs of the system

A program takes arguments and gives an exit status. Most take options, which start with a dash, and
operands, and read the files that the operands name, or their input.
-/

namespace PapyrusWriter.Shell

set_option autoImplicit false

/-- A program: what it does with its arguments, and its exit status. -/
abbrev Tool := List String → Run Nat

namespace Tool

/-! ## Arguments -/

/-- Options with their values, and operands. -/
structure Call where
  options : List (Char × String) := []
  operands : List String := []

namespace Call

def has (call : Call) (option : Char) : Bool := call.options.any (·.1 = option)

def value? (call : Call) (option : Char) : Option String := call.options.lookup option

end Call

/-- The options in an argument; one that has a value takes the rest of the argument, or asks for the
next one. -/
def optionsIn (valued : List Char) : List Char → List (Char × String) × Option Char
  | [] => ([], none)
  | c :: rest =>
      if valued.contains c then (if rest = [] then ([], some c) else ([(c, String.ofList rest)], none))
      else
        let (more, open?) := optionsIn valued rest
        ((c, "") :: more, open?)

/-- The options and operands of arguments. -/
def call (valued : List Char) : Nat → List String → Call
  | 0, arguments => ⟨[], arguments⟩
  | _, [] => {}
  | fuel + 1, argument :: rest =>
      match argument.toList with
      | ['-', '-'] => ⟨[], rest⟩
      | '-' :: c :: more =>
          let (options, open?) := optionsIn valued (c :: more)
          match open?, rest with
          | some option, value :: rest =>
              let after := call valued fuel rest
              { after with options := options ++ (option, value) :: after.options }
          | _, _ =>
              let after := call valued fuel rest
              { after with options := options ++ after.options }
      | _ =>
          let after := call valued fuel rest
          { after with operands := argument :: after.operands }

/-- The options and operands of arguments. -/
def callOf (valued : String) (arguments : List String) : Call :=
  call valued.toList (arguments.length + 1) arguments

/-- Whether letters have one, and whether a colon stands behind it there: then it has a value. -/
def optionIn? (letters : List Char) (option : Char) : Option Bool :=
  match letters.dropWhile (· ≠ option) with
  | [] => none
  | _ :: after => some (after.head? = some ':')

/-- The first option in an argument that letters do not have, and whether the next argument is the
value of the last one. -/
def unknownIn (letters : List Char) : List Char → Option Char × Bool
  | [] => (none, false)
  | c :: rest =>
      match optionIn? letters c with
      | none => (some c, false)
      | some true => (none, rest = [])
      | some false => unknownIn letters rest

/-- The first option in arguments that letters do not have. Options that are words are passed over,
and so is the first argument if it is the value of an option. -/
def unknownOption? (letters : List Char) (isValue : Bool) : List String → Option Char
  | [] => none
  | argument :: rest =>
      match isValue, argument.toList with
      | false, ['-', '-'] => none
      | false, '-' :: c :: more =>
          if c = '-' then unknownOption? letters false rest
          else
            match unknownIn letters (c :: more) with
            | (some option, _) => some option
            | (none, valued) => unknownOption? letters valued rest
      | _, _ => unknownOption? letters false rest

/-! ## Bytes and lines -/

def bytesOf (chars : List Char) : List UInt8 := Text.toBytes (String.ofList chars)

/-- The number that digits write, or zero. -/
def numberOf (text : String) : Nat := text.toNat?.getD 0

/-- The bytes of a file, or of the input for a dash. -/
def bytesIn (path : String) : Run (Except SystemError (List UInt8)) := do
  if path = "-" then return .ok (← Run.takeInput)
  match (← get).files.readContent path with
  | .ok content => return .ok content.bytes
  | .error cause => return .error cause

/-- The pieces of bytes that end in a line feed, and what is left behind the last one. -/
def byteLines : List UInt8 → List (List UInt8)
  | [] => []
  | b :: rest =>
      if b = 10 then [b] :: byteLines rest
      else
        match byteLines rest with
        | [] => [[b]]
        | line :: more => (b :: line) :: more

/-- The lines of bytes as texts, without their ends. -/
def textLines (bytes : List UInt8) : List (List Char) :=
  (byteLines bytes).map fun line => (Text.ofBytesLossy (line.filter (· ≠ 10))).toList

/-- Writes texts as lines. -/
def writeLines (lines : List (List Char)) : Run Unit :=
  Run.writeBytes 1 (lines.flatMap fun line => bytesOf line ++ [10])

/-! ## Operands -/

/-- Does something for each argument; the status is the greatest one. -/
def forAll (action : String → Run Nat) : List String → Run Nat
  | [] => pure 0
  | argument :: rest => do
      let first ← action argument
      return max first (← forAll action rest)

/-- Tells where more is said of the program. -/
def tryHelp : Run Unit := do
  Run.complain ("Try '" ++ (← get).program ++ " --help' for more information.")

/-- The message that operands are missing. -/
def missingOperand : Run Nat := do
  Run.complainBy "missing operand"
  tryHelp
  return 1

/-- A program that only knows some options; a colon stands behind those that have values. For others
it complains and gives help. -/
def helping (help : Run Unit) (letters : String) (status : Nat) (tool : Tool) : Tool :=
  fun arguments => do
    match unknownOption? letters.toList false arguments with
    | some option =>
        Run.complainBy ("invalid option -- '" ++ String.singleton option ++ "'")
        help
        return status
    | none => tool arguments

/-- A program that only knows some options, and tells where more is said of it. -/
def knowing (letters : String) (status : Nat) (tool : Tool) : Tool :=
  helping tryHelp letters status tool

/-- Gives the bytes of each file to an action; without files, those of the input. A file that cannot
be read is a failure with a message. -/
def forFiles (message : String → String) (action : String → List UInt8 → Run Unit)
    (paths : List String) : Run Nat :=
  forAll (fun path => do
    match ← bytesIn path with
    | .ok bytes =>
        action path bytes
        return 0
    | .error cause =>
        Run.complainBy (message path ++ ": " ++ cause.text)
        return 1) (if paths = [] then ["-"] else paths)

end Tool

end PapyrusWriter.Shell
