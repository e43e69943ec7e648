import PapyrusWriter.Yaml.Scanner
/-!
# Scalars in a text

The three ways to write a scalar: plain, between quotes, and as a block of lines. In the first two,
a line break between words is a blank, and each further break is kept.
-/

namespace PapyrusWriter.Yaml.Scan

set_option autoImplicit false

/-- The blanks and line breaks between two words. -/
structure Gap where
  /-- The blanks, if the line does not end. -/
  blanks : List Char := []
  broken : Bool := false
  /-- The first line break; an escaped one is nothing. -/
  first : List Char := []
  /-- The breaks after the first one. -/
  more : List Char := []

namespace Gap

/-- What the gap stands for. -/
def text (gap : Gap) : List Char :=
  if gap.broken then
    if gap.first = ['\n'] then (if gap.more = [] then [' '] else gap.more) else gap.first ++ gap.more
  else gap.blanks

end Gap

/-- Takes blanks and line breaks. Where `margin` is given, a tab at the start of a line must not
stand before that column. -/
def gap (margin : Option (Int × Mark)) : Nat → Gap → Scan Gap
  | 0, before => pure before
  | fuel + 1, before => do
      match ← peek with
      | none => pure before
      | some c =>
          if isBlank c then
            match margin with
            | some (column, start) =>
                if before.broken && c = '\t' && (← here).column < column then
                  fail .tabInPlain (some (.plainScalar, start))
            | none => pure ()
            if before.broken then
              advance
              gap margin fuel before
            else
              let blanks ← takeWhile isBlank
              gap margin fuel { before with blanks := before.blanks ++ blanks }
          else if isBreak c then
            let taken ← takeBreak
            if before.broken then gap margin fuel { before with more := before.more ++ taken }
            else gap margin fuel { before with blanks := [], broken := true, first := taken }
          else pure before

/-! ## Plain scalars -/

/-- The characters that end a plain scalar in a flow collection. -/
def isFlowMark (c : Char) : Bool :=
  c = ',' || c = '[' || c = ']' || c = '{' || c = '}'

/-- The first word of a plain scalar, and whether a colon ends it that stands where none can. -/
def plainWord (inFlow : Bool) : List Char → List Char × Bool
  | [] => ([], false)
  | c :: rest =>
      if isBlank c || isBreak c then ([], false)
      else if inFlow && c = ':' && rest.head?.any (fun d => isFlowMark d || d = '?') then ([], true)
      else if c = ':' && endsWord rest.head? then ([], false)
      else if inFlow && isFlowMark c then ([], false)
      else
        let (word, bad) := plainWord inFlow rest
        (c :: word, bad)

/-- The rest of a plain scalar after `text` and a gap: its text, where it ends, and whether a line
break follows it. -/
def plainFrom (start : Mark) : Nat → List Char → Gap → Mark → Scan (List Char × Mark × Bool)
  | 0, text, before, stop => pure (text, stop, before.broken)
  | fuel + 1, text, before, stop => do
      let s ← get
      if s.atDocumentMark || s.rest.head? = some '#' then return (text, stop, before.broken)
      let (word, bad) := plainWord s.inFlow s.rest
      advanceBy word.length
      if bad then fail .unexpectedColon (some (.plainScalar, start))
      let after ← here
      let (text, before, stop) :=
        if word = [] then (text, before, stop) else (text ++ before.text ++ word, {}, after)
      match ← peek with
      | none => return (text, stop, before.broken)
      | some c =>
          if isBlank c || isBreak c then
            let margin := s.indent + 1
            let next ← gap (some (margin, start)) (← Scan.fuel) before
            if !s.inFlow && (← here).column < margin then return (text, stop, next.broken)
            plainFrom start fuel text next stop
          else return (text, stop, before.broken)

/-- Scans a plain scalar. After a line break a key can start. -/
def plainScalar : Scan Unit := do
  let start ← here
  let (text, stop, broken) ← plainFrom start (← Scan.fuel) [] {} start
  emit (.scalar (String.ofList text) .plain) start stop
  if broken then allowKey true

/-! ## Quoted scalars -/

/-- The characters that short escapes stand for. -/
def escapes : List (Char × Nat) :=
  [('0', 0x00), ('a', 0x07), ('b', 0x08), ('t', 0x09), ('\t', 0x09), ('n', 0x0A), ('v', 0x0B), ('f', 0x0C),
    ('r', 0x0D), ('e', 0x1B), (' ', 0x20), ('"', 0x22), ('/', 0x2F), ('\\', 0x5C), ('N', 0x85), ('_', 0xA0),
    ('L', 0x2028), ('P', 0x2029)]

/-- How many digits the escapes by code point have. -/
def escapeDigits : List (Char × Nat) := [('x', 2), ('u', 4), ('U', 8)]

/-- The value of a hexadecimal digit. -/
def hexValue? (c : Char) : Option Nat :=
  if '0' ≤ c && c ≤ '9' then some (c.toNat - 48)
  else if 'a' ≤ c && c ≤ 'f' then some (c.toNat - 87)
  else if 'A' ≤ c && c ≤ 'F' then some (c.toNat - 55)
  else none

/-- The value of hexadecimal digits. -/
def hexNumber? (digits : List Char) : Option Nat :=
  digits.foldl (fun value c => value.bind fun n => (hexValue? c).map (16 * n + ·)) (some 0)

/-- Takes an escape, whose backslash is next. -/
def escape (start : Mark) : Scan (List Char) := do
  let context := some (Context.quotedEscape, start)
  match ← peekAt 1 with
  | none => fail .unknownEscape context
  | some letter =>
      match escapes.lookup letter, escapeDigits.lookup letter with
      | some code, _ =>
          advanceBy 2
          pure [Char.ofNat code]
      | none, some count =>
          advanceBy 2
          let digits := (← get).rest.take count
          match hexNumber? digits with
          | none => fail .badHexEscape context
          | some code =>
              if digits.length < count then fail .badHexEscape context
              else if (0xD800 ≤ code && code ≤ 0xDFFF) || 0x10FFFF < code then
                fail .badCodePoint context
              else
                advanceBy count
                pure [Char.ofNat code]
      | none, none => fail .unknownEscape context

/-- Whether a character of a quoted scalar stands for itself and does not end a word. -/
def isOrdinary (single : Bool) (c : Char) : Bool :=
  !(isBlank c || isBreak c) && (if single then c ≠ '\'' else c ≠ '"' && c ≠ '\\')

/-- Takes the characters of a quoted scalar up to a blank, a line break or the closing quote. An
escaped line break is the start of a gap. -/
def quotedWord (single : Bool) (start : Mark) : Nat → List Char → Scan (List Char × Gap)
  | 0, word => pure (word, {})
  | fuel + 1, word => do
      let next ← peek
      if endsWord next then return (word, {})
      match single, next, ← peekAt 1 with
      | true, some '\'', some '\'' =>
          advanceBy 2
          quotedWord single start fuel (word ++ ['\''])
      | true, some '\'', _ => return (word, {})
      | false, some '"', _ => return (word, {})
      | false, some '\\', after =>
          if after.any isBreak then
            advance
            let _ ← takeBreak
            return (word, { broken := true })
          else quotedWord single start fuel (word ++ (← escape start))
      | _, _, _ => quotedWord single start fuel (word ++ (← takeWhile (isOrdinary single)))

/-- The rest of a quoted scalar after `text`. -/
def quotedFrom (single : Bool) (start : Mark) : Nat → List Char → Scan (List Char)
  | 0, text => pure text
  | fuel + 1, text => do
      let s ← get
      if s.atDocumentMark then fail .documentMarkInScalar (some (.quotedScalar, start))
      if s.rest = [] then fail .endInScalar (some (.quotedScalar, start))
      let (word, opened) ← quotedWord single start (← Scan.fuel) []
      if (← peek) = some (if single then '\'' else '"') then return text ++ word
      let between ← gap none (← Scan.fuel) opened
      quotedFrom single start fuel (text ++ word ++ between.text)

/-- Scans a quoted scalar. -/
def quotedScalar (single : Bool) : Scan Unit := do
  let start ← here
  advance
  let text ← quotedFrom single start (← Scan.fuel) []
  advance
  emitFrom (.scalar (String.ofList text) .quoted) start

/-! ## Block scalars -/

/-- What becomes of the line breaks at the end of a block scalar. -/
inductive Chomp where
  | strip
  | clip
  | keep
deriving DecidableEq

def chompOf? : Option Char → Option Chomp
  | some '+' => some .keep
  | some '-' => some .strip
  | _ => none

/-- Takes an indentation digit, if there is one. -/
def indentDigit (start : Mark) : Scan (Option Nat) := do
  match ← peek with
  | some c =>
      if c.isDigit then
        if c = '0' then fail .zeroIndent (some (.blockScalar, start))
        advance
        pure (some (c.toNat - 48))
      else pure none
  | none => pure none

/-- Takes an indicator for the end of the scalar, if there is one. -/
def chomp : Scan (Option Chomp) := do
  match chompOf? (← peek) with
  | some found =>
      advance
      pure (some found)
  | none => pure none

/-- The indicators of a block scalar, in either order. -/
def blockHeader (start : Mark) : Scan (Chomp × Option Nat) := do
  match ← chomp with
  | some found => pure (found, ← indentDigit start)
  | none =>
      match ← indentDigit start with
      | some digit => pure ((← chomp).getD .clip, some digit)
      | none => pure (.clip, none)

/-- Takes indentation and empty lines. Gives the line breaks, the place after the last of them, and
the furthest column reached. The indentation is bounded by `indent` once that is known. -/
def emptyLines (start : Mark) (indent : Option Nat) :
    Nat → List Char → Mark → Nat → Scan (List Char × Mark × Nat)
  | 0, breaks, stop, furthest => pure (breaks, stop, furthest)
  | fuel + 1, breaks, stop, furthest => do
      let s ← get
      let spaces := (s.rest.takeWhile (· = ' ')).length
      let room := indent.elim spaces fun column => min spaces (column - s.mark.column)
      advanceBy room
      let column := (← here).column
      let furthest := max furthest column
      if (← peek) = some '\t' && indent.all (column < ·) then
        fail .tabInIndent (some (.blockScalar, start))
      match ← takeBreak with
      | [] => pure (breaks, stop, furthest)
      | taken => emptyLines start indent fuel (breaks ++ taken) (← here) furthest

/-- The lines of a block scalar. `text` is what comes before, `lead` the line break before the next
line and `breaks` the empty lines after it; `blank` says whether the line before starts with a
blank. -/
def blockLines (literal : Bool) (start : Mark) (indent : Nat) :
    Nat → List Char → List Char → List Char → Bool → Mark →
      Scan (List Char × List Char × List Char × Mark)
  | 0, text, lead, breaks, _, stop => pure (text, lead, breaks, stop)
  | fuel + 1, text, lead, breaks, blank, stop => do
      let s ← get
      if s.mark.column ≠ indent || s.rest = [] then return (text, lead, breaks, stop)
      let blankNow := s.rest.head?.any isBlank
      let joined :=
        if !literal && lead = ['\n'] && !blank && !blankNow then
          if breaks = [] then [' '] else []
        else lead
      let line ← takeWhile fun c => !isBreak c
      let lead ← takeBreak
      let (after, stop, _) ← emptyLines start (some indent) (← Scan.fuel) [] (← here) 0
      blockLines literal start indent fuel (text ++ joined ++ breaks ++ line) lead after blankNow stop

/-- Scans a block scalar, literal or folded. -/
def blockScalar (literal : Bool) : Scan Unit := do
  let start ← here
  advance
  let (chomping, digit) ← blockHeader start
  restOfLine
  unless endsLine (← peek) do fail .missingLineEnd (some (.blockScalar, start))
  let _ ← takeBreak
  let s ← get
  let given := digit.map fun increment =>
    if 0 ≤ s.indent then s.indent.toNat + increment else increment
  let (breaks, stop, furthest) ← emptyLines start given (← Scan.fuel) [] s.mark 0
  let indent := given.getD (max furthest (max (s.indent + 1).toNat 1))
  let (text, lead, after, stop) ←
    blockLines literal start indent (← Scan.fuel) [] [] breaks false stop
  let ending :=
    match chomping with
    | .strip => []
    | .clip => lead
    | .keep => lead ++ after
  emit (.scalar (String.ofList (text ++ ending)) .block) start stop

end PapyrusWriter.Yaml.Scan
