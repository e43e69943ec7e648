import PapyrusWriter.Yaml.ScalarText
/-!
# From a text to its tokens

Tokens are scanned one after the other. Where the text is broken, the tokens end with a fault; of
those before it, only the ones count that no key could still come before.
-/

namespace PapyrusWriter.Yaml

set_option autoImplicit false

namespace Scan

/-! ## Directives, anchors and tags -/

/-- Version numbers have at most this many digits. -/
def versionDigits : Nat := 9

/-- Takes a version number. -/
def versionNumber (start : Mark) : Scan Nat := do
  let digits := (← get).rest.takeWhile Char.isDigit
  advanceBy (min digits.length versionDigits)
  if versionDigits < digits.length then fail .longVersionNumber (some (.versionDirective, start))
  if digits = [] then fail .missingVersionNumber (some (.versionDirective, start))
  pure (digits.foldl (fun n c => 10 * n + (c.toNat - 48)) 0)

/-- The characters of a URI in a tag; some of them stand only in full URIs. -/
def isUriChar (full : Bool) (c : Char) : Bool :=
  isWord c || ";/?:@&=+$.%!~*'()".toList.contains c || (full && ",[]".toList.contains c)

/-- The byte of the escape in a URI that is next. -/
def uriByte (context : Context) (start : Mark) : Scan Nat := do
  match (← get).rest with
  | '%' :: high :: low :: _ =>
      match hexNumber? [high, low] with
      | some byte => pure byte
      | none => fail .badUriEscape (some (context, start))
  | _ => fail .badUriEscape (some (context, start))

/-- The bits of a character that its first byte has, and the number of bytes that follow. -/
def uriLead? (byte : Nat) : Option (Nat × Nat) :=
  if byte < 0x80 then some (byte, 0)
  else if byte / 0x20 = 6 then some (byte % 0x20, 1)
  else if byte / 0x10 = 14 then some (byte % 0x10, 2)
  else if byte / 0x08 = 30 then some (byte % 0x08, 3)
  else none

/-- Takes the bytes after the first one of a character in a URI. -/
def uriTail (context : Context) (start : Mark) : Nat → Nat → Scan Nat
  | 0, bits => pure bits
  | count + 1, bits => do
      let byte ← uriByte context start
      if byte / 0x40 ≠ 2 then fail .badUriTail (some (context, start))
      advanceBy 3
      uriTail context start count (0x40 * bits + byte % 0x40)

/-- The character of a code point that is written with so many bytes after the first one. It must
not fit into fewer. -/
def uriChar? (tail code : Nat) : Option Char :=
  if ([0, 0x80, 0x800, 0x10000].getD tail 0) ≤ code && code.isValidChar then some (Char.ofNat code)
  else none

/-- Takes a character that is escaped byte by byte in a URI. -/
def uriEscape (context : Context) (start : Mark) : Scan (Option Char) := do
  match uriLead? (← uriByte context start) with
  | none => fail .badUriLead (some (context, start))
  | some (bits, tail) =>
      advanceBy 3
      uriChar? tail <$> uriTail context start tail bits

/-- Takes the characters of a URI. -/
def uriChars (full : Bool) (context : Context) (start : Mark) : Nat → TagText → Scan TagText
  | 0, taken => pure taken
  | fuel + 1, taken => do
      match ← peek with
      | some '%' => uriChars full context start fuel (taken ++ [← uriEscape context start])
      | some c =>
          if isUriChar full c then
            let run ← takeWhile fun c => c ≠ '%' && isUriChar full c
            uriChars full context start fuel (taken ++ run.map some)
          else pure taken
      | none => pure taken

/-- The URI of a tag after the part that is already taken, which starts with a mark. It counts up to
the first null character. -/
def tagUri (full directive : Bool) (taken : List Char) (start : Mark) : Scan TagText := do
  let context := if directive then Context.tagDirectiveUri else .tagUri
  let uri ← uriChars full context start (← Scan.fuel) ((taken.drop 1).map some)
  if taken = [] && uri = [] then fail .missingTagUri (some (context, start))
  pure (uri.takeWhile (· ≠ some (Char.ofNat 0)))

/-- The handle at the start of a tag. -/
def tagHandle (directive : Bool) (start : Mark) : Scan (List Char) := do
  let context := if directive then Context.tagDirectiveHandle else .tag
  unless (← peek) = some '!' do fail .missingTagMark (some (context, start))
  advance
  let name ← takeWhile isWord
  if (← peek) = some '!' then
    advance
    pure ('!' :: name ++ ['!'])
  else
    if directive && name ≠ [] then fail .missingTagMark (some (.tagDirectiveHandleEnd, start))
    pure ('!' :: name)

/-- Scans a directive. -/
def directive : Scan Unit := do
  let start ← here
  advance
  let name ← takeWhile isWord
  if name = [] then fail .missingDirectiveName (some (.directive, start))
  unless endsWord (← peek) do fail .badDirectiveName (some (.directive, start))
  let kind ←
    if name = "YAML".toList then do
      let _ ← takeWhile isBlank
      let major ← versionNumber start
      unless (← peek) = some '.' do fail .missingVersionDot (some (.versionDirective, start))
      advance
      let minor ← versionNumber start
      pure (TokenKind.versionDirective major minor)
    else if name = "TAG".toList then do
      let _ ← takeWhile isBlank
      let handle ← tagHandle true start
      unless (← peek).any isBlank do fail .missingSpace (some (.tagDirective, start))
      let _ ← takeWhile isBlank
      let lead ← tagUri true true [] start
      unless endsWord (← peek) do fail .missingSpaceOrLineEnd (some (.tagDirective, start))
      pure (TokenKind.tagDirective (String.ofList handle) lead)
    else fail .unknownDirective (some (.directive, start))
  emitFrom kind start
  restOfLine
  unless endsLine (← peek) do fail .missingLineEnd (some (.directive, start))
  let _ ← takeBreak

/-- Whether a name of an anchor can end before the character. -/
def endsName (next : Option Char) : Bool :=
  endsWord next || next.any fun c => "?:,]\x7d%@`".toList.contains c

/-- Scans an anchor or an alias. -/
def anchor (context : Context) (make : String → TokenKind) : Scan Unit := do
  let start ← here
  advance
  let name ← takeWhile isWord
  if name = [] || !endsName (← peek) then fail .missingName (some (context, start))
  emitFrom (make (String.ofList name)) start

/-- Scans a tag. -/
def tag : Scan Unit := do
  let start ← here
  let kind ←
    if (← peekAt 1) = some '<' then do
      advanceBy 2
      let uri ← tagUri true false [] start
      unless (← peek) = some '>' do fail .missingTagEnd (some (.tag, start))
      advance
      pure (TokenKind.tag "" uri)
    else do
      let handle ← tagHandle false start
      if 1 < handle.length && handle.getLast? = some '!' then
        pure (TokenKind.tag (String.ofList handle) (← tagUri false false [] start))
      else
        let suffix ← tagUri false false handle start
        pure (if suffix = [] then TokenKind.tag "" (.ofString "!") else TokenKind.tag "!" suffix)
  let next ← peek
  unless endsWord next || ((← get).inFlow && next = some ',') do
    fail .missingSpaceOrLineEnd (some (.tag, start))
  emitFrom kind start

/-! ## One token -/

/-- Ends the text. Its end counts as the start of a line. -/
def streamEnd : Scan Unit := do
  modify fun s =>
    if s.mark.column = 0 then s else { s with mark := ⟨s.mark.index, s.mark.line + 1, 0⟩ }
  closeBlocks (-1)
  dropKey
  allowKey false
  emitFrom .streamEnd (← here)
  modify fun s => { s with ended := true }

/-- Scans a token of some characters. -/
def mark (kind : TokenKind) (width : Nat) : Scan Unit := do
  let start ← here
  advanceBy width
  emitFrom kind start

def documentMark (kind : TokenKind) : Scan Unit := do
  closeBlocks (-1)
  dropKey
  allowKey false
  mark kind 3

def flowStart (kind : TokenKind) : Scan Unit := do
  saveKey
  modify fun s => { s with key := none, outerKeys := s.key :: s.outerKeys }
  allowKey true
  mark kind 1

def flowEnd (kind : TokenKind) : Scan Unit := do
  dropKey
  modify fun s =>
    match s.outerKeys with
    | [] => s
    | key :: outerKeys => { s with key, outerKeys }
  allowKey false
  mark kind 1

def flowEntry : Scan Unit := do
  dropKey
  allowKey true
  mark .flowEntry 1

/-- Opens a block collection at the mark of one of its items. -/
def openAtMark (kind : TokenKind) (problem : Problem) : Scan Unit := do
  let s ← get
  unless s.inFlow do
    unless s.keyAllowed do fail problem none
    openBlock s.mark.column none kind s.mark

def blockEntry : Scan Unit := do
  openAtMark .blockSequenceStart .misplacedEntry
  dropKey
  allowKey true
  mark .blockEntry 1

def keyMark : Scan Unit := do
  openAtMark .blockMappingStart .misplacedKey
  dropKey
  allowKey (!(← get).inFlow)
  mark .key 1

/-- Scans the mark of a value. A possible key before it is now known to be one. -/
def valueMark : Scan Unit := do
  let s ← get
  match s.key with
  | some place =>
      insert place.number .key place.mark
      openBlock place.mark.column (some place.number) .blockMappingStart place.mark
      modify fun t => { t with key := none, keyAllowed := false }
  | none =>
      openAtMark .blockMappingStart .misplacedValue
      allowKey (!s.inFlow)
  mark .value 1

/-- Runs a scan of a token that can be a key. -/
def asKey (scan : Scan Unit) : Scan Unit := do
  saveKey
  allowKey false
  scan

/-- Whether a plain scalar starts with these characters. -/
def startsPlain (inFlow : Bool) (first : Char) (second : Option Char) : Bool :=
  !(isBlank first || isBreak first || "-?:,[]\x7b\x7d#&*!|>'\"%@`".toList.contains first) ||
    (first = '-' && !second.any isBlank) ||
    (!inFlow && (first = '?' || first = ':') && !endsWord second)

/-- Scans the token that starts with a character. -/
def tokenAt (first : Char) : Scan Unit := do
  let s ← get
  let second ← peekAt 1
  let atEnd := endsWord second
  if s.mark.column = 0 && first = '%' then
    closeBlocks (-1)
    dropKey
    allowKey false
    directive
  else if s.atDocumentMark then documentMark (if first = '-' then .documentStart else .documentEnd)
  else
    match first with
    | '[' => flowStart .flowSequenceStart
    | '{' => flowStart .flowMappingStart
    | ']' => flowEnd .flowSequenceEnd
    | '}' => flowEnd .flowMappingEnd
    | ',' => flowEntry
    | _ =>
        if first = '-' && atEnd then blockEntry
        else if first = '?' && (s.inFlow || atEnd) then keyMark
        else if first = ':' && (s.inFlow || atEnd) then valueMark
        else if first = '*' then asKey (anchor .alias .alias)
        else if first = '&' then asKey (anchor .anchor .anchor)
        else if first = '!' then asKey tag
        else if (first = '|' || first = '>') && !s.inFlow then do
          dropKey
          allowKey true
          blockScalar (first = '|')
        else if first = '\'' || first = '"' then asKey (quotedScalar (first = '\''))
        else if startsPlain s.inFlow first second then asKey plainScalar
        else fail .noToken (some (.nextToken, s.mark))

/-- Scans the next token, with the tokens that come with it. -/
def token : Scan Unit := do
  skipSpace (← Scan.fuel)
  dropStaleKeys
  closeBlocks (← here).column
  match ← peek with
  | none => streamEnd
  | some first => tokenAt first
  dropStaleKeys

end Scan

/-- The tokens of a text, and the fault that ends them if there is one. -/
structure TokenStream where
  tokens : List Token
  fault : Option Fault

namespace TokenStream

/-- Scans tokens until the text ends or is broken. If it breaks off with a fault, whatever needs its
end fails with that. -/
def collect (broken : Option Fault) : Nat → Scanner → TokenStream
  | 0, s => ⟨s.tokens.reverse, none⟩
  | fuel + 1, s =>
      let stop (fault : Fault) : TokenStream := ⟨s.tokens.reverse.take s.ready, some fault⟩
      match Scan.token s, broken with
      | .ok _ after, none => if after.ended then ⟨after.tokens.reverse, none⟩ else collect broken fuel after
      | .ok _ after, some fault => if after.rest = [] then stop fault else collect broken fuel after
      | .error fault _, none => stop fault
      | .error found after, some fault => stop (if after.rest = [] then fault else found)

/-- Whether texts can hold a character. -/
def isAllowed (c : Char) : Bool :=
  let n := c.toNat
  n = 0x09 || n = 0x0A || n = 0x0D || (0x20 ≤ n && n ≤ 0x7E) || n = 0x85 ||
    (0xA0 ≤ n && n ≤ 0xFFFD) || 0x10000 ≤ n

/-- Texts are looked at in pieces of whole characters with at most this many bytes. -/
def pieceSize : Nat := 16384

/-- The first character that texts cannot hold: the number of characters before its piece, and of
bytes before it. The piece that the text starts in ends at `limit`. -/
def controlPlace? : List Char → (offset limit count before : Nat) → Option (Nat × Nat)
  | [], _, _, _, _ => none
  | c :: rest, offset, limit, count, before =>
      let fits := offset + c.utf8Size ≤ limit
      let limit := if fits then limit else offset + pieceSize
      let before := if fits then before else count
      if isAllowed c then controlPlace? rest (offset + c.utf8Size) limit (count + 1) before
      else some (before, offset)

/-- The tokens of a text. A piece with a character that texts cannot hold is not looked into. -/
def ofText (text : String) : TokenStream :=
  let chars := text.toList
  match controlPlace? chars 0 pieceSize 0 0 with
  | some (before, offset) =>
      let fault : Fault := ⟨.controlCharacter offset, .start, none⟩
      if before = 0 then ⟨[], some fault⟩
      else collect (some fault) (before + 2) (Scanner.start (chars.take before))
  | none => collect none (chars.length + 2) (Scanner.start chars)

end TokenStream

end PapyrusWriter.Yaml
