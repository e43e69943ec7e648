import PapyrusWriter.Yaml.Token
/-!
# The state of scanning

A scanner holds the rest of a text, the indentation of the open block collections, and for each
level of flow collections the place of a token that may turn out to be a key: a key without mark of
its own is known only from the `:` after it.
-/

namespace PapyrusWriter.Yaml

set_option autoImplicit false

def isBlank (c : Char) : Bool := c = ' ' || c = '\t'

/-- The characters that end a line. -/
def isBreak (c : Char) : Bool :=
  c = '\n' || c = '\r' || c.toNat = 0x85 || c.toNat = 0x2028 || c.toNat = 0x2029

/-- Whether a word ends before the character, or at the end of the text. -/
def endsWord : Option Char → Bool
  | none => true
  | some c => isBlank c || isBreak c

/-- Whether a line ends before the character, or at the end of the text. -/
def endsLine : Option Char → Bool
  | none => true
  | some c => isBreak c

/-- The characters of names. -/
def isWord (c : Char) : Bool := c.isAlphanum || c = '-' || c = '_'

/-- A token that may be a key: its number, and whether the block around it leaves no other reading.
-/
structure KeyPlace where
  number : Nat
  mark : Mark
  required : Bool

structure Scanner where
  rest : List Char
  mark : Mark
  /-- The indentation of the innermost block collection, and of those around it. -/
  indent : Int
  outerIndents : List Int
  /-- A possible key on the innermost flow level, and on those around it. -/
  key : Option KeyPlace
  outerKeys : List (Option KeyPlace)
  /-- Whether a key can start here. -/
  keyAllowed : Bool
  /-- The tokens so far, the last one first, and their number. -/
  tokens : List Token
  count : Nat
  ended : Bool
  /-- More than the number of steps that the text allows. -/
  bound : Nat

namespace Scanner

def start (text : List Char) : Scanner where
  rest := text
  mark := .start
  indent := -1
  outerIndents := []
  key := none
  outerKeys := []
  keyAllowed := true
  tokens := []
  count := 0
  ended := false
  bound := text.length + 1

/-- Whether the scanner is inside of a flow collection. -/
def inFlow (s : Scanner) : Bool := !s.outerKeys.isEmpty

/-- The number of tokens that no key can still come before. -/
def ready (s : Scanner) : Nat :=
  ((s.key :: s.outerKeys).filterMap id).foldl (fun least place => min least place.number)
    s.count

/-- The scanner after the next character of a line. -/
def advance (s : Scanner) : Scanner :=
  match s.rest with
  | [] => s
  | c :: rest =>
      { s with rest, mark := ⟨s.mark.index + c.utf8Size, s.mark.line, s.mark.column + 1⟩ }

/-- The scanner after a line break. -/
def advanceLine (s : Scanner) : Scanner :=
  match s.rest with
  | '\r' :: '\n' :: rest => { s with rest, mark := ⟨s.mark.index + 2, s.mark.line + 1, 0⟩ }
  | c :: rest => { s with rest, mark := ⟨s.mark.index + c.utf8Size, s.mark.line + 1, 0⟩ }
  | [] => s

/-- Whether a line starts here that marks the start or the end of a document. -/
def atDocumentMark (s : Scanner) : Bool :=
  s.mark.column = 0 &&
    match s.rest with
    | '-' :: '-' :: '-' :: rest => endsWord rest.head?
    | '.' :: '.' :: '.' :: rest => endsWord rest.head?
    | _ => false

end Scanner

/-- A computation that moves a scanner. -/
abbrev Scan := EStateM Fault Scanner

namespace Scan

variable {α : Type}

/-- Fails at the scanner's place. -/
def fail (problem : Problem) (context : Option (Context × Mark)) : Scan α := fun s =>
  .error ⟨problem, s.mark, context⟩ s

def peek : Scan (Option Char) := fun s => .ok s.rest.head? s

/-- The character after `count` others. -/
def peekAt (count : Nat) : Scan (Option Char) := fun s => .ok s.rest[count]? s

def here : Scan Mark := fun s => .ok s.mark s

def advance : Scan Unit := modify Scanner.advance

def advanceBy : Nat → Scan Unit
  | 0 => pure ()
  | count + 1 => do
      advance
      advanceBy count

/-- A bound for the steps that the text allows. -/
def fuel : Scan Nat := fun s => .ok s.bound s

/-- Takes the characters of a line while they fulfil a condition. -/
def takeWhile (accept : Char → Bool) : Scan (List Char) := fun s =>
  let taken := s.rest.takeWhile accept
  let bytes := taken.foldl (fun sum c => sum + c.utf8Size) 0
  .ok taken
    { s with
      rest := s.rest.drop taken.length
      mark := ⟨s.mark.index + bytes, s.mark.line, s.mark.column + taken.length⟩ }

/-- Takes a line break, if there is one. Breaks are line feeds, apart from the two separators of
texts. -/
def takeBreak : Scan (List Char) := do
  match ← peek with
  | none => pure []
  | some c =>
      if isBreak c then
        modify Scanner.advanceLine
        pure [if c.toNat < 0x2028 then '\n' else c]
      else pure []

/-- Takes blanks and a comment up to the end of the line. -/
def restOfLine : Scan Unit := do
  let _ ← takeWhile isBlank
  if (← peek) = some '#' then
    let _ ← takeWhile fun c => !isBreak c

/-! ## Tokens -/

/-- Adds a token. -/
def emit (kind : TokenKind) (start stop : Mark) : Scan Unit :=
  modify fun s => { s with tokens := ⟨kind, start, stop⟩ :: s.tokens, count := s.count + 1 }

/-- Adds a token that starts at a mark and ends here. -/
def emitFrom (kind : TokenKind) (start : Mark) : Scan Unit := do
  emit kind start (← here)

/-- Adds a token of no width before the token of a number. -/
def insert (number : Nat) (kind : TokenKind) (mark : Mark) : Scan Unit :=
  modify fun s =>
    let after := s.count - number
    { s with
      tokens := s.tokens.take after ++ ⟨kind, mark, mark⟩ :: s.tokens.drop after
      count := s.count + 1 }

def allowKey (allowed : Bool) : Scan Unit :=
  modify fun s => { s with keyAllowed := allowed }

/-! ## Possible keys -/

/-- Gives up the possible key of the innermost level. -/
def dropKey : Scan Unit := do
  let s ← get
  match s.key with
  | some ⟨_, mark, true⟩ => fail .missingColon (some (.simpleKey, mark))
  | _ => set { s with key := none }

/-- Remembers the next token as a possible key, where keys are allowed. -/
def saveKey : Scan Unit := do
  let s ← get
  if s.keyAllowed then
    let required := !s.inFlow && s.indent = s.mark.column
    dropKey
    modify fun t => { t with key := some ⟨s.count, s.mark, required⟩ }

/-- Keys have at most this many bytes. -/
def keyLimit : Nat := 1024

/-- Whether a key that starts at a mark cannot end here. -/
def isStale (s : Scanner) (place : KeyPlace) : Bool :=
  place.mark.line < s.mark.line || place.mark.index + keyLimit < s.mark.index

/-- Gives up the possible keys that are too far back. -/
def dropStaleKeys : Scan Unit := do
  let s ← get
  let stale := (s.key :: s.outerKeys).filterMap id |>.filter (isStale s)
  match stale.find? (·.required) with
  | some place => fail .missingColon (some (.simpleKey, place.mark))
  | none =>
      let keep (key : Option KeyPlace) := key.filter fun place => !isStale s place
      set { s with key := keep s.key, outerKeys := s.outerKeys.map keep }

/-! ## Indentation -/

/-- Opens a block collection at a column if it is further in than the one around. -/
def openBlock (column : Nat) (number : Option Nat) (kind : TokenKind) (mark : Mark) : Scan Unit := do
  let s ← get
  if !s.inFlow && s.indent < column then
    set { s with indent := column, outerIndents := s.indent :: s.outerIndents }
    match number with
    | none => emit kind mark mark
    | some number => insert number kind mark

/-- The indentations that are left when the block collections further in than a column are closed,
and the number of those. -/
def outerBlocks (column : Int) : Int → List Int → Nat → Int × List Int × Nat
  | indent, [], closed => (indent, [], closed)
  | indent, outer :: rest, closed =>
      if column < indent then outerBlocks column outer rest (closed + 1)
      else (indent, outer :: rest, closed)

/-- Closes the block collections that are further in than a column. -/
def closeBlocks (column : Int) : Scan Unit := do
  let s ← get
  if !s.inFlow then
    let (indent, outerIndents, closed) := outerBlocks column s.indent s.outerIndents 0
    set { s with
      indent, outerIndents
      tokens := List.replicate closed (Token.mk .blockEnd s.mark s.mark) ++ s.tokens
      count := s.count + closed }

/-- Moves to the next token over blanks, comments and line breaks. Tabs count as blanks only where
no key can start. -/
def skipSpace : Nat → Scan Unit
  | 0 => pure ()
  | fuel + 1 => do
      let s ← get
      if s.mark.column = 0 && s.rest.head? = some (Char.ofNat 0xFEFF) then advance
      let _ ← takeWhile fun c => c = ' ' || (c = '\t' && (s.inFlow || !s.keyAllowed))
      if (← peek) = some '#' then
        let _ ← takeWhile fun c => !isBreak c
      match ← takeBreak with
      | [] => pure ()
      | _ =>
          unless s.inFlow do allowKey true
          skipSpace fuel

end Scan

end PapyrusWriter.Yaml
