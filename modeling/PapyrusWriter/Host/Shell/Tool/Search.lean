import PapyrusWriter.Glob
import PapyrusWriter.Host.Shell.Tool.Condition
import PapyrusWriter.Host.Shell.Tool.Regex
/-!
# Programs that search and change lines
-/

namespace PapyrusWriter.Shell.Tool

set_option autoImplicit false

/-! ## Search -/

/-- Whether a line has a match. -/
def hasMatch (regex : Regex) (ignoreCase whole : Bool) (line : List Char) : Bool :=
  if whole then
    (Regex.ways ignoreCase (64 * (line.length + 16)) regex { rest := line, atStart := true }).any
      (·.rest = [])
  else (regex.search? ignoreCase true line).isSome

/-- The matches in a line that are not empty. -/
def allMatches (regex : Regex) (ignoreCase : Bool) : Nat → Bool → List Char → List (List Char)
  | 0, _, _ => []
  | fuel + 1, atStart, line =>
      match regex.search? ignoreCase atStart line with
      | none => []
      | some (_, [], way) => allMatches regex ignoreCase fuel false (way.rest.drop 1)
      | some (_, taken, way) => taken :: allMatches regex ignoreCase fuel false way.rest

/-- An expression with the ends of words at its ends. -/
def asWord (line : List Char) (regex : Regex) (ignoreCase : Bool) : Bool :=
  (Glob.ends line).zipIdx.any fun (ending, index) =>
    let before := if index = 0 then none else (line.drop (index - 1)).head?
    !before.any Regex.word.contains &&
      (Regex.ways ignoreCase (64 * (ending.length + 16)) regex { rest := ending, atStart := index = 0 }).any
        fun way => !way.rest.head?.any Regex.word.contains

def grepHelp : Run Unit := do
  Run.complain "Usage: grep [OPTION]... PATTERNS [FILE]..."
  Run.complain "Try 'grep --help' for more information."

/-- The options of a search. -/
def grepOptions : String := "0123456789A:B:C:D:EFGHILPTUVX:abcd:e:f:hilm:noqRrsuvwxyZz"

/-- Writes the lines that have a match. -/
def grepAs (extended : Bool) : Tool := fun arguments => do
  let call := callOf "emABC" arguments
  let (pattern, paths) :=
    match call.value? 'e', call.operands with
    | some pattern, paths => (pattern, paths)
    | none, pattern :: paths => (pattern, paths)
    | none, [] => ("", [])
  if pattern = "" && call.operands = [] && !call.has 'e' then
    grepHelp
    return 2
  let read (text : List Char) : Regex :=
    if call.has 'F' then .literal text else .ofText (extended || call.has 'E') text
  let regexes := (splitAt '\n' pattern.toList).map read
  let regex := regexes.tail.foldl Regex.either (regexes.headD .nothing)
  let accepted (line : List Char) : Bool :=
    (if call.has 'w' then asWord line regex (call.has 'i')
      else hasMatch regex (call.has 'i') (call.has 'x') line) != call.has 'v'
  let several := (1 < paths.length || call.has 'H') && !call.has 'h'
  let results ← (if paths = [] then ["-"] else paths).mapM fun path => do
    match ← bytesIn path with
    | .error cause =>
        unless call.has 's' do Run.complainBy (path ++ ": " ++ cause.text)
        return (false, true)
    | .ok bytes =>
        let name := if path = "-" then "(standard input)" else path
        let found := (textLines bytes).zipIdx.filter fun (line, _) => accepted line
        let found := ((call.value? 'm').map numberOf).elim found found.take
        let start := if several then name.toList ++ [':'] else []
        if call.has 'q' then pure ()
        else if call.has 'c' then writeLines [start ++ Nat.toDigits 10 found.length]
        else if call.has 'l' then (if found = [] then pure () else writeLines [name.toList])
        else
          writeLines (found.flatMap fun (line, index) =>
            let place := if call.has 'n' then Nat.toDigits 10 (index + 1) ++ [':'] else []
            let shown :=
              if call.has 'o' then allMatches regex (call.has 'i') (line.length + 1) true line else [line]
            shown.map (start ++ place ++ ·))
        return (found ≠ [], false)
  if results.any Prod.snd then return 2
  return if results.any Prod.fst then 0 else 1

/-! ## Change -/

/-- The lines that a command is for. -/
inductive Address where
  | line (number : Nat)
  | last
  | accepted (regex : Regex)

inductive Edit where
  | substitute (regex : Regex) (replacement : List Char) (flags : List Char)
  | delete
  | print
  | quit
  | number
  | exchange (source target : List Char)
  | append (text : List Char)
  | insert (text : List Char)
  | change (text : List Char)

/-- A command for lines: for all, for one address, or from one to another. -/
structure EditCommand where
  addresses : List Address
  inverted : Bool
  edit : Edit

/-- The text up to a delimiter that has no backslash before it, and the rest. -/
def delimited (delimiter : Char) : List Char → Option (List Char × List Char)
  | [] => none
  | '\\' :: c :: rest =>
      (delimited delimiter rest).map fun (inner, after) =>
        (if c = delimiter then c :: inner else '\\' :: c :: inner, after)
  | c :: rest =>
      if c = delimiter then some ([], rest)
      else (delimited delimiter rest).map fun (inner, after) => (c :: inner, after)

def address? (extended : Bool) : List Char → Option (Address × List Char)
  | '$' :: rest => some (.last, rest)
  | '/' :: rest =>
      (delimited '/' rest).map fun (text, after) => (.accepted (.ofText extended text), after)
  | text =>
      let digits := text.takeWhile Char.isDigit
      if digits = [] then none
      else some (.line (numberOf (String.ofList digits)), text.drop digits.length)

/-- The text of a command that adds lines, and the rest of the script. -/
def addedText (rest : List Char) : List Char × List Char :=
  let text := rest.dropWhile isBlank
  let text := if "\\\n".toList.isPrefixOf text then text.drop 2 else text
  let text := if text.head? = some '\\' then text.drop 1 else text
  (text.takeWhile (· ≠ '\n'), text.dropWhile (· ≠ '\n'))

/-- What a command does, and the rest of the script. -/
def edit? (extended : Bool) : List Char → Option (Edit × List Char)
  | 's' :: delimiter :: rest => do
      let (pattern, rest) ← delimited delimiter rest
      let (replacement, rest) ← delimited delimiter rest
      let flags := rest.takeWhile fun c => c ≠ ';' && c ≠ '\n' && c ≠ '}'
      return (.substitute (.ofText extended pattern) replacement flags, rest.drop flags.length)
  | 'y' :: delimiter :: rest => do
      let (source, rest) ← delimited delimiter rest
      let (target, rest) ← delimited delimiter rest
      return (.exchange source target, rest)
  | 'd' :: rest => some (.delete, rest)
  | 'p' :: rest => some (.print, rest)
  | 'q' :: rest => some (.quit, rest)
  | '=' :: rest => some (.number, rest)
  | 'a' :: rest => some ((addedText rest).map Edit.append id)
  | 'i' :: rest => some ((addedText rest).map Edit.insert id)
  | 'c' :: rest => some ((addedText rest).map Edit.change id)
  | _ => none

/-- The commands of a script, or nothing if it is broken. -/
def edits? (extended : Bool) : Nat → List Char → Option (List EditCommand)
  | 0, _ => none
  | fuel + 1, text =>
      match text.dropWhile fun c => isBlank c || c = ';' || c = '\n' with
      | [] => some []
      | text => do
          let (first, rest) :=
            match address? extended text with
            | some (address, rest) => ([address], rest)
            | none => ([], text)
          let (second, rest) :=
            match rest with
            | ',' :: rest =>
                match address? extended rest with
                | some (address, rest) => ([address], rest)
                | none => ([], rest)
            | _ => ([], rest)
          let rest := rest.dropWhile isBlank
          let inverted := rest.head? = some '!'
          let (edit, rest) ← edit? extended (if inverted then (rest.drop 1).dropWhile isBlank else rest)
          return ⟨first ++ second, inverted, edit⟩ :: (← edits? extended fuel rest)

/-- The text that replaces a match. -/
def replacementOf (taken : List Char) (groups : List (Nat × List Char)) : List Char → List Char
  | [] => []
  | '\\' :: c :: rest =>
      (if c.isDigit then (if c = '0' then taken else (groups.lookup (c.toNat - 48)).getD [])
        else if c = 'n' then ['\n'] else if c = 't' then ['\t'] else [c]) ++
        replacementOf taken groups rest
  | '&' :: rest => taken ++ replacementOf taken groups rest
  | c :: rest => c :: replacementOf taken groups rest

/-- A line with matches replaced: the one of a number, and those after it if all are meant. Tells
whether there are any. -/
def substituted (regex : Regex) (ignoreCase everywhere : Bool) (replacement : List Char) :
    Nat → Nat → Bool → List Char → List Char × Bool
  | 0, _, _, line => (line, false)
  | fuel + 1, skip, atStart, line =>
      match regex.search? ignoreCase atStart line with
      | none => (line, false)
      | some (before, taken, way) =>
          let text := if skip = 0 then replacementOf taken way.groups replacement else taken
          let goesOn := everywhere || skip ≠ 0
          if !goesOn then (before ++ text ++ way.rest, true)
          else
            let more := substituted regex ignoreCase everywhere replacement fuel (skip - 1) false
            match taken, way.rest with
            | [], c :: rest =>
                let (after, found) := more rest
                (before ++ text ++ c :: after, found || skip = 0)
            | [], [] => (before ++ text, skip = 0)
            | _, rest =>
                let (after, found) := if rest = [] then ([], false) else more rest
                (before ++ text ++ after, found || skip = 0)

/-- What is known while lines are changed: the commands whose range is open, and the output in
reverse order. -/
structure EditState where
  opened : List Nat := []
  output : List (List Char) := []

/-- A line and its place. -/
structure EditLine where
  number : Nat
  isLast : Bool

def Address.holds (place : EditLine) (line : List Char) : Address → Bool
  | .line number => place.number = number
  | .last => place.isLast
  | .accepted regex => hasMatch regex false false line

/-- Whether a command is for a line, and whether its range goes on. -/
def selected (command : EditCommand) (opened : Bool) (place : EditLine) (line : List Char) : Bool × Bool :=
  match command.addresses with
  | [] => (true, false)
  | [address] => (address.holds place line, false)
  | first :: second :: _ =>
      let passed : Bool := match second with | .line number => number ≤ place.number | _ => false
      if opened then (true, !(passed || second.holds place line))
      else if first.holds place line then (true, !passed)
      else (false, false)

/-- Runs commands on a line. Gives the line, if it is still to be written, whether to go on with the
next one, and the lines to write after it. -/
def runEdits (silent : Bool) (place : EditLine) :
    List (EditCommand × Nat) → EditState → List Char → List (List Char) →
      EditState × Option (List Char) × Bool × List (List Char)
  | [], state, line, later => (state, if silent then none else some line, true, later)
  | (command, index) :: rest, state, line, later =>
      let (applies, stays) := selected command (state.opened.contains index) place line
      let opened := state.opened.filter (· ≠ index) ++ if stays then [index] else []
      let state := { state with opened }
      let shown := if silent then none else some line
      if applies == command.inverted then runEdits silent place rest state line later
      else
        match command.edit with
        | .delete => (state, none, true, later)
        | .change text => ({ state with output := text :: state.output }, none, true, later)
        | .quit => (state, shown, false, later)
        | .print => runEdits silent place rest { state with output := line :: state.output } line later
        | .number =>
            let number := Nat.toDigits 10 place.number
            runEdits silent place rest { state with output := number :: state.output } line later
        | .append text => runEdits silent place rest state line (later ++ [text])
        | .insert text => runEdits silent place rest { state with output := text :: state.output } line later
        | .exchange source target =>
            let line := line.map fun c =>
              if source.contains c then target.getD (source.idxOf c) c else c
            runEdits silent place rest state line later
        | .substitute regex replacement flags =>
            let digits := flags.filter Char.isDigit
            let skip := if digits = [] then 0 else numberOf (String.ofList digits) - 1
            let ignoreCase := flags.contains 'i' || flags.contains 'I'
            let (changed, found) := substituted regex ignoreCase (flags.contains 'g') replacement
              (line.length + 2) skip true line
            let output := if found && flags.contains 'p' then changed :: state.output else state.output
            runEdits silent place rest { state with output } changed later

/-- Changes lines one after the other. -/
def editLines (silent : Bool) (commands : List (EditCommand × Nat)) :
    List (List Char) → Nat → EditState → List (List Char)
  | [], _, state => state.output.reverse
  | line :: rest, number, state =>
      let (state, shown, goesOn, later) := runEdits silent ⟨number, rest = []⟩ commands state line []
      let state := { state with output := later.reverse ++ shown.toList ++ state.output }
      if goesOn then editLines silent commands rest (number + 1) state else state.output.reverse

/-- Changes lines by a script. -/
def sed : Tool := fun arguments => do
  let call := callOf "ef" arguments
  let extended := call.has 'E' || call.has 'r'
  let scripts := call.options.filterMap fun (option, value) => if option = 'e' then some value else none
  let (script, paths) :=
    match scripts, call.operands with
    | [], script :: paths => (script, paths)
    | scripts, paths => ("\n".intercalate scripts, paths)
  match edits? extended (script.length + 1) script.toList with
  | none =>
      Run.complainBy ("-e expression #1, char " ++ toString script.length ++ ": unknown command")
      return 1
  | some commands =>
      let edited (lines : List (List Char)) := editLines (call.has 'n') commands.zipIdx lines 1 {}
      if call.has 'i' then
        return ← forFiles ("can't read " ++ ·) (fun path bytes => do
          let text := (edited (textLines bytes)).flatMap (· ++ ['\n'])
          let files := (← get).files
          modify fun p =>
            { p with files := (files.write path (Content.ofBytes (bytesOf text))).toOption.getD files })
          paths
      let (status, lines) ← linesOf ("can't read " ++ ·) paths
      writeLines (edited lines)
      return status

/-! ## Expressions -/

/-- The signs between two operands, those that bind least first. -/
def exprLevels : List (List String) :=
  [["|"], ["&"], ["=", "==", "!=", "<", "<=", ">", ">="], ["+", "-"], ["*", "/", "%"], [":"]]

/-- Whether a value counts as false. -/
def isEmptyValue (text : String) : Bool := text = "" || text.toInt? = some 0

/-- The match of an expression at the start of a text: its group, or its length. -/
def matchStart (text pattern : String) : String :=
  match (Regex.ofText false pattern.toList).longest? false true text.toList with
  | none => if pattern.toList.contains '(' then "" else "0"
  | some (taken, way) =>
      match way.groups.lookup 1 with
      | some group => String.ofList group
      | none => toString taken.length

def exprOperate (sign a b : String) : Except String String :=
  let compared (order : Int → Int → Bool) (texts : String → String → Bool) : Except String String :=
    .ok <| match a.toInt?, b.toInt? with
      | some x, some y => if order x y then "1" else "0"
      | _, _ => if texts a b then "1" else "0"
  let computed (operation : Int → Int → Except String Int) : Except String String :=
    match a.toInt?, b.toInt? with
    | some x, some y => (operation x y).map toString
    | _, _ => .error "non-integer argument"
  match sign with
  | "|" => .ok (if !isEmptyValue a then a else if !isEmptyValue b then b else "0")
  | "&" => .ok (if isEmptyValue a || isEmptyValue b then "0" else a)
  | "=" | "==" => compared (· == ·) (· == ·)
  | "!=" => compared (· != ·) (· != ·)
  | "<" => compared (fun x y => decide (x < y)) fun x y => decide (x < y)
  | "<=" => compared (fun x y => decide (x ≤ y)) fun x y => decide (x ≤ y)
  | ">" => compared (fun x y => decide (x > y)) fun x y => decide (y < x)
  | ">=" => compared (fun x y => decide (x ≥ y)) fun x y => decide (y ≤ x)
  | "+" => computed fun x y => .ok (x + y)
  | "-" => computed fun x y => .ok (x - y)
  | "*" => computed fun x y => .ok (x * y)
  | "/" => computed fun x y => if y = 0 then .error "division by zero" else .ok (x.tdiv y)
  | "%" => computed fun x y => if y = 0 then .error "division by zero" else .ok (x.tmod y)
  | _ => .ok (matchStart a b)

abbrev ExprParse := StateT (List String) (Except String)

mutual

/-- Takes an operation with signs of some levels. -/
def exprOperation : List (List String) → Nat → ExprParse String
  | _, 0 => throw "syntax error"
  | [], fuel + 1 => exprOperand fuel
  | signs :: inner, fuel + 1 => do
      let first ← exprOperation inner fuel
      exprRest signs inner fuel first

def exprRest (signs : List String) (inner : List (List String)) : Nat → String → ExprParse String
  | 0, first => return first
  | fuel + 1, first => do
      match ← get with
      | sign :: rest =>
          if signs.contains sign then
            set rest
            if rest = [] then throw ("syntax error: missing argument after '" ++ sign ++ "'")
            let second ← exprOperation inner fuel
            exprRest signs inner fuel (← exprOperate sign first second)
          else return first
      | [] => return first

def exprOperand : Nat → ExprParse String
  | 0 => throw "syntax error"
  | fuel + 1 => do
      match ← get with
      | [] => throw "syntax error"
      | "(" :: rest =>
          set rest
          let inner ← exprOperation exprLevels fuel
          modify (List.drop 1)
          return inner
      | "length" :: text :: rest =>
          set rest
          return toString text.length
      | "substr" :: text :: start :: count :: rest =>
          set rest
          let from_ := numberOf start
          return if from_ = 0 then ""
            else String.ofList ((text.toList.drop (from_ - 1)).take (numberOf count))
      | "index" :: text :: chars :: rest =>
          set rest
          let place := text.toList.findIdx chars.toList.contains
          return if place < text.length then toString (place + 1) else "0"
      | "match" :: text :: pattern :: rest =>
          set rest
          return matchStart text pattern
      | text :: rest =>
          set rest
          return text

end

def expr : Tool := fun arguments => do
  if arguments = [] then
    let _ ← missingOperand
    return 2
  match (exprOperation exprLevels (16 * arguments.length + 16)).run arguments with
  | .ok (value, []) =>
      Run.write 1 (value ++ "\n")
      return if isEmptyValue value then 1 else 0
  | .ok (_, next :: _) =>
      Run.complainBy ("syntax error: unexpected argument '" ++ next ++ "'")
      return 2
  | .error message =>
      Run.complainBy message
      return 2

end PapyrusWriter.Shell.Tool
