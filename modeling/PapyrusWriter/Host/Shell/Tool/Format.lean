import PapyrusWriter.Host.Shell.Arithmetic
import PapyrusWriter.Host.Shell.Tool.Basic
/-!
# Programs that write texts

Formats are texts with escapes and conversions. A format is gone through again while arguments are
left.
-/

namespace PapyrusWriter.Shell.Tool

set_option autoImplicit false

/-! ## Escapes -/

/-- The bytes that letters stand for after a backslash. -/
def escapeLetters : List (Char × UInt8) :=
  [('a', 7), ('b', 8), ('e', 27), ('f', 12), ('n', 10), ('r', 13), ('t', 9), ('v', 11), ('\\', 92)]

def isOctal (c : Char) : Bool := '0' ≤ c && c ≤ '7'

/-- Up to `count` octal digits, and the rest. -/
def octal (count : Nat) (text : List Char) : UInt8 × List Char :=
  let digits := (text.take count).takeWhile isOctal
  (UInt8.ofNat (digits.foldl (fun n c => 8 * n + (c.toNat - 48)) 0), text.drop digits.length)

/-- The bytes of what follows a backslash, and the rest. -/
def escape (c : Char) (rest : List Char) : List UInt8 × List Char :=
  match escapeLetters.lookup c with
  | some byte => ([byte], rest)
  | none =>
      if isOctal c then
        let (byte, after) := octal 3 (c :: rest)
        ([byte], after)
      else (bytesOf ['\\', c], rest)

/-- The bytes of a text with escapes, and whether an escape ends all output. Octal codes can start
with a zero of their own. -/
def escaped : Nat → List Char → List UInt8 × Bool
  | 0, _ => ([], false)
  | _, [] => ([], false)
  | fuel + 1, '\\' :: c :: rest =>
      if c = 'c' then ([], true)
      else
        let (bytes, after) :=
          if c = '0' then
            let (byte, after) := octal 3 rest
            ([byte], after)
          else escape c rest
        let (more, stop) := escaped fuel after
        (bytes ++ more, stop)
  | fuel + 1, c :: rest =>
      let (more, stop) := escaped fuel rest
      (bytesOf [c] ++ more, stop)

/-! ## Conversions -/

/-- How a conversion is laid out. -/
structure Layout where
  left : Bool
  zeros : Bool
  plus : Bool
  space : Bool
  width : Nat
  precision : Option Nat

/-- A number before a conversion: digits, or a star for the next argument. -/
def layoutNumber (text : List Char) (arguments : List String) :
    Option Nat × List Char × List String :=
  match text with
  | '*' :: rest => (some (numberOf (arguments.headD "")), rest, arguments.drop 1)
  | _ =>
      let digits := text.takeWhile Char.isDigit
      let value := if digits = [] then none else some (numberOf (String.ofList digits))
      (value, text.drop digits.length, arguments)

/-- The layout before the letter of a conversion, and the rest. -/
def layout (text : List Char) (arguments : List String) : Layout × List Char × List String :=
  let flags := text.takeWhile fun c => "-0+ #".toList.contains c
  let (width, text, arguments) := layoutNumber (text.drop flags.length) arguments
  let (precision, text, arguments) :=
    match text with
    | '.' :: rest =>
        let (value, text, arguments) := layoutNumber rest arguments
        (some (value.getD 0), text, arguments)
    | _ => (none, text, arguments)
  let shape : Layout :=
    { left := flags.contains '-'
      zeros := flags.contains '0'
      plus := flags.contains '+'
      space := flags.contains ' '
      width := width.getD 0
      precision }
  (shape, text, arguments)

/-- Fills up to the width. -/
def pad (shape : Layout) (bytes : List UInt8) : List UInt8 :=
  let missing := shape.width - bytes.length
  if shape.left then bytes ++ List.replicate missing 32 else List.replicate missing 32 ++ bytes

/-- A number with its sign, filled up to the width. -/
def padNumber (shape : Layout) (negative : Bool) (digits : List Char) : List UInt8 :=
  let sign := if negative then ['-'] else if shape.plus then ['+'] else if shape.space then [' '] else []
  let least := shape.precision.getD 0
  let digits := List.replicate (least - digits.length) '0' ++ digits
  let missing := shape.width - (sign.length + digits.length)
  if shape.zeros && !shape.left && shape.precision.isNone then
    bytesOf (sign ++ List.replicate missing '0' ++ digits)
  else pad shape (bytesOf (sign ++ digits))

/-- The number that an argument holds, and what is wrong with it. A quote stands before a character
that counts by its code. -/
def argumentNumber (text : String) : Int × Option String :=
  match text.toList with
  | '"' :: c :: _ | '\'' :: c :: _ => (c.toNat, none)
  | chars =>
      let start := chars.dropWhile Arithmetic.isSpace
      let (negative, digits) :=
        match start with
        | '-' :: rest => (true, rest)
        | '+' :: rest => (false, rest)
        | rest => (false, rest)
      let (value, rest) := Arithmetic.number digits
      let value := if negative then -value else value
      if text = "" then (0, none)
      else if !digits.head?.any Char.isDigit then (0, some "expected numeric value")
      else (value, if rest = [] then none else some "not completely converted")

/-- What a pass over a format gives. -/
structure Formatted where
  bytes : List UInt8 := []
  arguments : List String := []
  /-- Whether an argument was taken. -/
  took : Bool := false
  /-- Whether all output ends. -/
  stop : Bool := false
  /-- Messages about arguments, and about a conversion that ends all output. -/
  problems : List String := []
  broken : Option String := none

def Formatted.after (bytes : List UInt8) (rest : Formatted) : Formatted :=
  { rest with bytes := bytes ++ rest.bytes }

/-- A converted argument; nothing for a letter that is no conversion. -/
def convert (letter : Char) (shape : Layout) (argument : String) : Option Formatted :=
  let (value, problem) := argumentNumber argument
  let problems := problem.elim [] fun text => [argument ++ ": " ++ text]
  let word := (value % 0x10000000000000000).toNat
  match letter with
  | 'd' | 'i' => some { bytes := padNumber shape (value < 0) (Nat.toDigits 10 value.natAbs), problems }
  | 'u' => some { bytes := padNumber shape false (Nat.toDigits 10 word), problems }
  | 'x' => some { bytes := padNumber shape false (Nat.toDigits 16 word), problems }
  | 'X' => some { bytes := padNumber shape false ((Nat.toDigits 16 word).map Char.toUpper), problems }
  | 'o' => some { bytes := padNumber shape false (Nat.toDigits 8 word), problems }
  | 'c' => some { bytes := pad shape ((Text.toBytes argument).headD 0 :: []) }
  | 'b' =>
      let (bytes, stop) := escaped (argument.length + 1) argument.toList
      some { bytes := pad shape (shape.precision.elim bytes bytes.take), stop }
  | 's' =>
      let bytes := Text.toBytes argument
      some { bytes := pad shape (shape.precision.elim bytes bytes.take) }
  | _ => none

/-- One pass over a format. -/
def formatOnce : Nat → List Char → List String → Formatted
  | 0, _, arguments => { arguments }
  | _, [], arguments => { arguments }
  | fuel + 1, '%' :: '%' :: rest, arguments => (formatOnce fuel rest arguments).after [37]
  | fuel + 1, '%' :: rest, arguments =>
      let (shape, after, arguments) := layout rest arguments
      let converted := after.head?.bind fun letter => convert letter shape (arguments.headD "")
      match converted with
      | none =>
          let length := rest.length - after.length + 1
          { arguments, broken := some (String.ofList ('%' :: rest.take length)) }
      | some found =>
          if found.stop then found
          else
            let more := formatOnce fuel (after.drop 1) (arguments.drop 1)
            { more with
              bytes := found.bytes ++ more.bytes
              took := true
              problems := found.problems ++ more.problems }
  | fuel + 1, '\\' :: c :: rest, arguments =>
      if c = '"' || c = '\'' then (formatOnce fuel rest arguments).after (bytesOf [c])
      else
        let (bytes, after) := escape c rest
        (formatOnce fuel after arguments).after bytes
  | fuel + 1, c :: rest, arguments => (formatOnce fuel rest arguments).after (bytesOf [c])

/-- Passes over a format while it takes arguments and some are left. -/
def formatAll (format : List Char) : Nat → List String → Formatted
  | 0, _ => {}
  | fuel + 1, arguments =>
      let first := formatOnce (format.length + 1) format arguments
      if first.took && !first.stop && first.broken.isNone && !first.arguments.isEmpty then
        let more := formatAll format fuel first.arguments
        { more with bytes := first.bytes ++ more.bytes, problems := first.problems ++ more.problems }
      else first

def printf : Tool := fun arguments => do
  let fail (message : String) : Run Nat := do
    Run.complainOf "printf" message
    return Run.errorStatus
  match arguments with
  | [] | ["--"] => fail "usage: printf format [arg ...]"
  | first :: rest =>
      match first.toList with
      | '-' :: c :: _ =>
          if first = "--" then write (rest.headD "") (rest.drop 1)
          else fail ("Illegal option -" ++ String.singleton c)
      | _ => write first rest
where
  write (format : String) (arguments : List String) : Run Nat := do
    let result := formatAll format.toList (arguments.length + 1) arguments
    Run.writeBytes 1 result.bytes
    result.problems.forM fun problem => Run.complainOf "printf" problem
    match result.broken with
    | some text =>
        Run.complainOf "printf" (text ++ ": invalid directive")
        return Run.errorStatus
    | none => return if result.problems.isEmpty then 0 else 1

/-! ## Words -/

/-- The command of the shell, which knows escapes. -/
def echo : Tool := fun arguments => do
  let (newline, texts) :=
    match arguments with
    | "-n" :: rest => (false, rest)
    | _ => (true, arguments)
  let text := (" ".intercalate texts).toList
  let (bytes, stop) := escaped (text.length + 1) text
  Run.writeBytes 1 (bytes ++ (if newline && !stop then [10] else []))
  return 0

/-- Whether an argument is made of options of the program that writes words. -/
def isEchoOption (text : String) : Bool :=
  match text.toList with
  | '-' :: c :: rest => (c :: rest).all fun c => c = 'n' || c = 'e' || c = 'E'
  | _ => false

/-- The program of the system, which knows escapes only if told so. -/
def echoProgram : Tool := fun arguments => do
  let flags := (arguments.takeWhile isEchoOption).flatMap String.toList
  let text := (" ".intercalate (arguments.dropWhile isEchoOption)).toList
  let known := (flags.filter fun c => c = 'e' || c = 'E').getLast? = some 'e'
  let (bytes, stop) := if known then escaped (text.length + 1) text else (bytesOf text, false)
  Run.writeBytes 1 (bytes ++ (if flags.contains 'n' || stop then [] else [10]))
  return 0

/-- The numbers from one to another by steps. -/
def numbersTo (last step : Int) : Nat → Int → List Int
  | 0, _ => []
  | fuel + 1, n =>
      if (0 < step && last < n) || (step < 0 && n < last) then [] else n :: numbersTo last step fuel (n + step)

/-- Writes the numbers from one to another. -/
def seq : Tool := fun arguments => do
  let separator := ((callOf "s" arguments).value? 's').getD "\n"
  let numbers := arguments.filterMap String.toInt?
  let range :=
    match numbers with
    | [last] => some (1, 1, last)
    | [first, last] => some (first, 1, last)
    | [first, step, last] => some (first, step, last)
    | _ => none
  match range with
  | none => missingOperand
  | some (first, step, last) =>
      let found := numbersTo last step ((last - first).natAbs + 1) first
      unless found.isEmpty do
        Run.write 1 (separator.intercalate (found.map toString) ++ "\n")
      return 0

end PapyrusWriter.Shell.Tool
