import PapyrusWriter.Host.Shell.Tool.Basic
/-!
# Programs that go through the lines of files
-/

namespace PapyrusWriter.Shell.Tool

set_option autoImplicit false

/-- A byte that cannot be seen as signs that can; tabs and line ends stay. -/
def visible (byte : UInt8) : List UInt8 :=
  let low := byte % 128
  let sign : List UInt8 :=
    if byte = 9 || byte = 10 then [byte]
    else if low < 32 then [94, low + 64]
    else if low = 127 then [94, 63]
    else [low]
  if byte < 128 then sign else [77, 45] ++ (if low < 32 then [94, low + 64] else sign)

/-- The bytes of a line with its signs shown as options say. -/
def shownLine (tabs ends all : Bool) (line : List UInt8) : List UInt8 :=
  line.flatMap fun byte =>
    if byte = 9 && tabs then [94, 73]
    else if byte = 10 && ends then [36, 10]
    else if all then visible byte
    else [byte]

/-- Lines without empty ones that follow an empty one. -/
def singleGaps : List (List UInt8) → List (List UInt8)
  | a :: b :: rest =>
      if a = [10] && b = [10] then singleGaps (b :: rest) else a :: singleGaps (b :: rest)
  | lines => lines

/-- Lines with their numbers before them; if `skipEmpty`, empty ones have none. -/
def numberLines (skipEmpty : Bool) : Nat → List (List UInt8) → List (List UInt8)
  | _, [] => []
  | number, line :: rest =>
      if skipEmpty && line = [10] then line :: numberLines skipEmpty number rest
      else
        let digits := Nat.toDigits 10 number
        (bytesOf (List.replicate (6 - digits.length) ' ' ++ digits ++ ['\t']) ++ line) ::
          numberLines skipEmpty (number + 1) rest

def cat : Tool := fun arguments =>
  let call := callOf "" arguments
  let any (letters : String) : Bool := letters.toList.any call.has
  forFiles id (fun _ bytes => do
    let lines := byteLines bytes
    let lines := if call.has 's' then singleGaps lines else lines
    let lines := lines.map (shownLine (any "ATt") (any "AEe") (any "Aetv"))
    Run.writeBytes 1 (if any "bn" then numberLines (call.has 'b') 1 lines else lines).flatten)
    call.operands

def tac : Tool := fun arguments =>
  forFiles id (fun _ bytes => Run.writeBytes 1 (byteLines bytes).reverse.flatten)
    (callOf "" arguments).operands

def rev : Tool := fun arguments =>
  forFiles ("cannot open " ++ ·) (fun _ bytes => writeLines ((textLines bytes).map List.reverse))
    (callOf "" arguments).operands

/-! ## Parts of files -/

/-- The arguments with a count such as `-3` written as `-n3`. -/
def plainCount (arguments : List String) : List String :=
  arguments.map fun argument =>
    match argument.toList with
    | '-' :: c :: rest =>
        if (c :: rest).all Char.isDigit then String.ofList ('-' :: 'n' :: c :: rest) else argument
    | _ => argument

/-- How many elements a count leaves, of those there are. -/
def countOf (text : String) (total : Nat) : Nat :=
  match text.toList with
  | '-' :: digits => total - numberOf (String.ofList digits)
  | _ => numberOf text

/-- Writes the name of a file above its part if there are several. -/
def heading (several : Bool) (first path : String) : Run Unit := do
  if several then
    let name := if path = "-" then "standard input" else path
    Run.write 1 ((if path = first then "" else "\n") ++ "==> " ++ name ++ " <==\n")

def head : Tool := fun arguments =>
  let call := callOf "nc" (plainCount arguments)
  forFiles (fun path => "cannot open '" ++ path ++ "' for reading") (fun path bytes => do
    heading (1 < call.operands.length && !call.has 'q') (call.operands.headD "") path
    let lines := byteLines bytes
    match call.value? 'c' with
    | some count => Run.writeBytes 1 (bytes.take (countOf count bytes.length))
    | none =>
        Run.writeBytes 1 (lines.take (countOf ((call.value? 'n').getD "10") lines.length)).flatten)
    call.operands

/-- The end of a list: so many elements, or from a position on. -/
def ending {α : Type} (count : String) (list : List α) : List α :=
  match count.toList with
  | '+' :: digits => list.drop (numberOf (String.ofList digits) - 1)
  | '-' :: digits => list.drop (list.length - numberOf (String.ofList digits))
  | _ => list.drop (list.length - numberOf count)

def tail : Tool := fun arguments =>
  let call := callOf "nc" (plainCount arguments)
  forFiles (fun path => "cannot open '" ++ path ++ "' for reading") (fun path bytes => do
    heading (1 < call.operands.length && !call.has 'q') (call.operands.headD "") path
    match call.value? 'c' with
    | some count => Run.writeBytes 1 (ending count bytes)
    | none => Run.writeBytes 1 (ending ((call.value? 'n').getD "10") (byteLines bytes)).flatten)
    call.operands

/-! ## Counts -/

/-- Lines, words, characters and bytes. -/
def countsOf (bytes : List UInt8) : List (Char × Nat) :=
  let isSpace (b : UInt8) : Bool := b = 32 || (9 ≤ b && b ≤ 13)
  let words := (bytes.foldl (fun (count, inside) b =>
    if isSpace b then (count, false) else (if inside then count else count + 1, true)) (0, false)).1
  [('l', bytes.count 10), ('w', words), ('m', (Text.ofBytesLossy bytes).length), ('c', bytes.length)]

/-- The counts that are asked for, in columns. -/
def countLine (asked : List Char) (width : Nat) (counts : List (Char × Nat)) (name : String) : String :=
  let shown := (counts.filter fun entry => asked.contains entry.1).map fun entry =>
    let digits := toString entry.2
    String.ofList (List.replicate (width - digits.length) ' ') ++ digits
  " ".intercalate shown ++ (if name = "" then "" else " " ++ name) ++ "\n"

/-- Counts lines, words, characters or bytes. -/
def wc : Tool := fun arguments => do
  let call := callOf "" arguments
  let asked := if call.options = [] then ['l', 'w', 'c'] else call.options.map Prod.fst
  let paths := if call.operands = [] then ["-"] else call.operands
  let found ← paths.mapM fun path => do return (path, ← bytesIn path)
  let read := found.filterMap fun (path, result) => result.toOption.map fun bytes => (path, bytes)
  let all := (read.map Prod.snd).flatten
  let width :=
    if paths.length = 1 && asked.length = 1 then 1
    else if paths.contains "-" then 7
    else (toString all.length).length
  let status ← forAll (fun path => do
    match found.lookup path with
    | some (.ok bytes) =>
        let name := if call.operands = [] then "" else path
        Run.write 1 (countLine asked width (countsOf bytes) name)
        return 0
    | some (.error cause) =>
        Run.complainBy (path ++ ": " ++ cause.text)
        return 1
    | none => return 1) paths
  if 1 < paths.length then Run.write 1 (countLine asked width (countsOf all) "total")
  return status

/-! ## Order -/

/-- The number at the start of a line. -/
def leadingNumber (line : List Char) : Int :=
  let start := line.dropWhile isBlank
  let digits := (if start.head? = some '-' then start.drop 1 else start).takeWhile Char.isDigit
  let value : Int := numberOf (String.ofList digits)
  if start.head? = some '-' then -value else value

/-- The lines of several files. -/
def linesOf (message : String → String) (paths : List String) : Run (Nat × List (List Char)) := do
  let found ← (if paths = [] then ["-"] else paths).mapM fun path => do
    match ← bytesIn path with
    | .ok bytes => return (0, textLines bytes)
    | .error cause =>
        Run.complainBy (message path ++ ": " ++ cause.text)
        return (2, [])
  return ((found.map Prod.fst).foldl max 0, (found.map Prod.snd).flatten)

/-- A list without elements that are like the one before. -/
def withoutRepeats (like : List Char → List Char → Bool) : List (List Char) → List (List Char)
  | a :: b :: rest =>
      if like a b then withoutRepeats like (a :: rest) else a :: withoutRepeats like (b :: rest)
  | lines => lines
termination_by lines => lines.length

def sort : Tool := fun arguments => do
  let call := callOf "kto" arguments
  let (status, lines) ← linesOf ("cannot read: " ++ ·) call.operands
  if status ≠ 0 then return status
  let before (a b : List Char) : Bool :=
    let (a, b) := if call.has 'r' then (b, a) else (a, b)
    let inOrder : Bool := String.ofList a ≤ String.ofList b
    if call.has 'n' then
      leadingNumber a < leadingNumber b || (leadingNumber a = leadingNumber b && inOrder)
    else inOrder
  let like (a b : List Char) : Bool := if call.has 'n' then leadingNumber a = leadingNumber b else a = b
  let sorted := lines.mergeSort before
  writeLines (if call.has 'u' then withoutRepeats like sorted else sorted)
  return 0

/-- Runs of equal lines with their lengths. -/
def runsOf : List (List Char) → List (List Char × Nat)
  | [] => []
  | line :: rest =>
      match runsOf rest with
      | (other, count) :: more =>
          if line = other then (line, count + 1) :: more else (line, 1) :: (other, count) :: more
      | [] => [(line, 1)]

def uniq : Tool := fun arguments => do
  let call := callOf "" arguments
  let (status, lines) ← linesOf id (call.operands.take 1)
  if status ≠ 0 then return 1
  let runs := (runsOf lines).filter fun run =>
    (!call.has 'd' || 1 < run.2) && (!call.has 'u' || run.2 = 1)
  writeLines (runs.map fun (line, count) =>
    if call.has 'c' then
      let digits := Nat.toDigits 10 count
      List.replicate (7 - digits.length) ' ' ++ digits ++ ' ' :: line
    else line)
  return 0

/-! ## Columns -/

/-- The parts of a text between separators. -/
def splitAt (separator : Char) : List Char → List (List Char)
  | [] => [[]]
  | c :: rest =>
      if c = separator then [] :: splitAt separator rest
      else
        match splitAt separator rest with
        | first :: more => (c :: first) :: more
        | [] => [[c]]

/-- Whether a list of positions such as `1,3-5` contains one. -/
def selects (positions : String) (position : Nat) : Bool :=
  (splitAt ',' positions.toList).any fun part =>
    match splitAt '-' part with
    | [one] => numberOf (String.ofList one) = position
    | [low, high] =>
        (low = [] || numberOf (String.ofList low) ≤ position) &&
          (high = [] || position ≤ numberOf (String.ofList high))
    | _ => false

def chosen {α : Type} (positions : String) (list : List α) : List α :=
  (list.zipIdx.filter fun (_, index) => selects positions (index + 1)).map Prod.fst

def cut : Tool := fun arguments =>
  let call := callOf "dfcb" arguments
  let separator := (((call.value? 'd').getD "\t").toList.head?).getD '\t'
  forFiles id (fun _ bytes =>
    writeLines ((textLines bytes).filterMap fun line =>
      match call.value? 'f', call.value? 'c' <|> call.value? 'b' with
      | some positions, _ =>
          if !line.contains separator then (if call.has 's' then none else some line)
          else some ([separator].intercalate (chosen positions (splitAt separator line)))
      | none, some positions => some (chosen positions line)
      | none, none => some line)) call.operands

/-! ## Characters -/

/-- The characters of a class. -/
def classOf : String → List Char
  | "upper" => (List.range 26).map fun n => Char.ofNat (65 + n)
  | "lower" => (List.range 26).map fun n => Char.ofNat (97 + n)
  | "digit" => (List.range 10).map fun n => Char.ofNat (48 + n)
  | "alpha" => classOf "upper" ++ classOf "lower"
  | "alnum" => classOf "digit" ++ classOf "alpha"
  | "space" => [' ', '\t', '\n', '\x0b', '\x0c', '\r']
  | "blank" => [' ', '\t']
  | "punct" => "!\"#$%&'()*+,-./:;<=>?@[\\]^_`\x7b|\x7d~".toList
  | _ => []
termination_by name => if name = "alnum" then 2 else if name = "alpha" then 1 else 0

/-- The characters that a set stands for: itself, ranges, classes and escapes. -/
def setOf : Nat → List Char → List Char
  | 0, _ => []
  | _, [] => []
  | fuel + 1, '[' :: ':' :: rest =>
      let name := rest.takeWhile (· ≠ ':')
      classOf (String.ofList name) ++ setOf fuel (rest.drop (name.length + 2))
  | fuel + 1, '\\' :: c :: rest =>
      let plain := ([('n', '\n'), ('t', '\t'), ('r', '\r'), ('\\', '\\')].lookup c).getD c
      plain :: setOf fuel rest
  | fuel + 1, low :: '-' :: high :: rest =>
      (List.range (high.toNat + 1 - low.toNat)).map (fun n => Char.ofNat (low.toNat + n)) ++
        setOf fuel rest
  | fuel + 1, c :: rest => c :: setOf fuel rest

/-- A text in which runs of some characters are single ones. -/
def squeezed (set : List Char) : List Char → List Char
  | a :: b :: rest =>
      if a = b && set.contains a then squeezed set (b :: rest) else a :: squeezed set (b :: rest)
  | text => text
termination_by text => text.length

def tr : Tool := fun arguments => do
  let call := callOf "" arguments
  match call.operands with
  | first :: rest =>
      if rest = [] && !call.has 'd' && !call.has 's' then
        Run.complainBy ("missing operand after '" ++ first ++ "'")
        Run.complain "Two strings must be given when translating."
        tryHelp
        return 1
      let source := setOf (first.length + 1) first.toList
      let target := setOf ((rest.headD "").length + 1) (rest.headD "").toList
      let inverted := call.has 'c' || call.has 'C'
      let inSource (c : Char) : Bool := source.contains c != inverted
      let text := (Text.ofBytesLossy (← Run.takeInput)).toList
      let replaced :=
        if call.has 'd' then text.filter (!inSource ·)
        else if target = [] then text
        else
          text.map fun c =>
            if !inSource c then c
            else if inverted then target.getLastD c
            else target.getD (source.idxOf c) (target.getLastD c)
      let set := if target = [] then source else target
      Run.writeBytes 1 (bytesOf (if call.has 's' then squeezed set replaced else replaced))
      return 0
  | [] => missingOperand

/-- Writes the input to files and to the output. -/
def tee : Tool := fun arguments => do
  let call := callOf "" arguments
  let bytes ← Run.takeInput
  Run.writeBytes 1 bytes
  forAll (fun path => do
    let files := (← get).files
    let old := if call.has 'a' then ((files.readContent path).toOption.map Content.bytes).getD [] else []
    match files.write path (Content.ofBytes (old ++ bytes)) with
    | .ok files =>
        modify fun p => { p with files }
        return 0
    | .error cause =>
        Run.complainBy (path ++ ": " ++ cause.text)
        return 1) call.operands

end PapyrusWriter.Shell.Tool
