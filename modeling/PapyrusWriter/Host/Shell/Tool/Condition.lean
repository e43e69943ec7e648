import PapyrusWriter.Host.Shell.Arithmetic
import PapyrusWriter.Host.Shell.Tool.Basic
/-!
# Conditions on texts and files

A condition is made of tests on one or two operands, joined by signs. Where an operand looks like a
sign, the number of arguments decides.
-/

namespace PapyrusWriter.Shell.Tool

set_option autoImplicit false

/-! ## Tests -/

def unarySigns : List String :=
  ["-r", "-w", "-x", "-e", "-f", "-d", "-c", "-b", "-p", "-u", "-g", "-k", "-s", "-t", "-z", "-n",
    "-h", "-O", "-G", "-L", "-S"]

def binarySigns : List String :=
  ["=", "!=", "<", ">", "-eq", "-ne", "-ge", "-gt", "-le", "-lt", "-nt", "-ot", "-ef"]

/-- A test on one text or file. -/
def testOne (files : FileSystem) (sign text : String) : Bool :=
  match sign with
  | "-n" => text ≠ ""
  | "-z" => text = ""
  | "-e" | "-r" | "-w" | "-O" | "-G" => files.exists? text
  | "-f" => files.isFile text
  | "-d" => files.isDirectory text
  | "-s" =>
      match files.find text with
      | .ok (_, .file content _) => !content.bytes.isEmpty
      | .ok (_, node) => node.isDirectory
      | .error _ => false
  | "-x" =>
      match files.find text with
      | .ok (_, .file _ executable) => executable
      | .ok (_, node) => node.isDirectory
      | .error _ => false
  | "-c" =>
      match files.find text with
      | .ok (_, .device) => true
      | _ => false
  | "-L" | "-h" =>
      match files.locate .entry text with
      | .ok (.found _ (.link _)) => true
      | _ => false
  | _ => false

/-- The decimal number that an operand of a test is. -/
def testNumber (text : String) : Except String Int :=
  let chars := text.toList.dropWhile Arithmetic.isSpace
  let digits := if chars.head? = some '-' || chars.head? = some '+' then chars.drop 1 else chars
  let number := digits.takeWhile Char.isDigit
  if number = [] || !(digits.drop number.length).all Arithmetic.isSpace then
    .error ("Illegal number: " ++ text)
  else
    let value : Int := numberOf (String.ofList number)
    .ok (if chars.head? = some '-' then -value else value)

/-- A test on two texts or numbers. Files have no times here; a file is newer than what is not
there. -/
def testTwo (files : FileSystem) (sign a b : String) : Except String Bool := do
  match sign with
  | "=" => return a = b
  | "!=" => return a ≠ b
  | "<" => return a < b
  | ">" => return b < a
  | "-nt" => return files.exists? a && !files.exists? b
  | "-ot" => return !files.exists? a && files.exists? b
  | "-ef" =>
      return match files.find a, files.find b with
        | .ok (x, _), .ok (y, _) => decide (x = y)
        | _, _ => false
  | _ =>
      let x ← testNumber a
      let y ← testNumber b
      return match sign with
        | "-eq" => x == y
        | "-ne" => x != y
        | "-lt" => decide (x < y)
        | "-le" => decide (x ≤ y)
        | "-gt" => decide (x > y)
        | _ => decide (x ≥ y)

/-- Whether the sign at the start of arguments is an operand itself: it stands last, or before a
sign for two operands that has another one. -/
def isOperand : List String → Bool
  | [_] => true
  | [_, _] => false
  | _ :: next :: _ => binarySigns.contains next
  | [] => true

/-- The arguments that are left of a condition, and the last one that was taken. -/
structure Rest where
  last : String
  arguments : List String

abbrev Test := StateT Rest (Except String)

/-- Takes an argument. -/
def takeArgument : Test String := do
  match (← get).arguments with
  | [] => return ""
  | first :: rest =>
      set (Rest.mk first rest)
      return first

/-- Takes an argument after a sign. -/
def argumentOf (sign : String) : Test String := do
  if (← get).arguments = [] then throw (sign ++ ": argument expected") else takeArgument

mutual

/-- Takes conditions of which one must hold. -/
def anyOf (files : FileSystem) : Nat → Test Bool
  | 0 => return false
  | fuel + 1 => do
      let first ← allOf files fuel
      if (← get).arguments.head? = some "-o" then
        let _ ← takeArgument
        let second ← anyOf files fuel
        return first || second
      else return first

/-- Takes conditions that must all hold. -/
def allOf (files : FileSystem) : Nat → Test Bool
  | 0 => return false
  | fuel + 1 => do
      let first ← negatable files fuel
      if (← get).arguments.head? = some "-a" then
        let _ ← takeArgument
        let second ← allOf files fuel
        return first && second
      else return first

/-- Takes a condition with marks before it that negate it. -/
def negatable (files : FileSystem) : Nat → Test Bool
  | 0 => return false
  | fuel + 1 => do
      if (← get).arguments.head? = some "!" then
        let _ ← takeArgument
        return !(← negatable files fuel)
      else single files fuel

/-- Takes a single condition. -/
def single (files : FileSystem) : Nat → Test Bool
  | 0 => return false
  | fuel + 1 => do
      let arguments := (← get).arguments
      match arguments with
      | [] => return false
      | "(" :: next :: _ =>
          let _ ← takeArgument
          if next = ")" then
            let _ ← takeArgument
            return false
          let inner ← anyOf files fuel
          if (← takeArgument) ≠ ")" then throw "closing paren expected"
          return inner
      | first :: _ =>
          let _ ← takeArgument
          if unarySigns.contains first && !isOperand arguments then
            return testOne files first (← argumentOf first)
          match (← get).arguments with
          | sign :: _ =>
              if binarySigns.contains sign then
                let _ ← takeArgument
                testTwo files sign first (← argumentOf sign)
              else return first ≠ ""
          | [] => return first ≠ ""

end

/-- The truth of a condition. -/
def condition (files : FileSystem) : Nat → List String → Except String Bool
  | 0, _ => .ok false
  | fuel + 1, arguments => do
      let general (arguments : List String) : Except String Bool := do
        let (result, rest) ← (anyOf files (8 * arguments.length + 8)).run ⟨"", arguments⟩
        if rest.arguments = [] then return result else throw (rest.last ++ ": unexpected operator")
      match arguments with
      | [] => return false
      | [a, sign, b] =>
          if binarySigns.contains sign then testTwo files sign a b
          else if a = "!" then return !(← condition files fuel [sign, b])
          else if a = "(" && b = ")" then general [sign]
          else general arguments
      | ["!", a, b, c] => return !(← condition files fuel [a, b, c])
      | ["(", a, b, ")"] => general [a, b]
      | _ => general arguments

/-- Evaluates a condition under a name. -/
def testAs (name : String) (arguments : List String) : Run Nat := do
  match condition (← get).files (arguments.length + 1) arguments with
  | .ok result => return if result then 0 else 1
  | .error message =>
      Run.complainOf name message
      return Run.errorStatus

def test : Tool := testAs "test"

/-- The test that is written in brackets. -/
def bracket : Tool := fun arguments => do
  if arguments.getLast? = some "]" then testAs "[" arguments.dropLast
  else
    Run.complainOf "[" "missing ]"
    return Run.errorStatus

end PapyrusWriter.Shell.Tool
