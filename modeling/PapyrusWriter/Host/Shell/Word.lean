import PapyrusWriter.Host.Shell.Script
/-!
# Words of scripts

A word is made of texts, quoted or not, and of what is expanded: parameters, outputs of scripts and
arithmetic expressions. The texts inside of expansions are kept as they are written, and looked at
when the word is expanded.
-/

namespace PapyrusWriter.Shell

set_option autoImplicit false

/-- The characters that end a word. -/
def isMeta (c : Char) : Bool := isBlank c || "\n;&|<>()".toList.contains c

/-- The characters up to one, which must be there, and those after it. -/
def upTo (stop : Char) : List Char → Option (List Char × List Char)
  | [] => none
  | c :: rest =>
      if c = stop then some ([], rest)
      else (upTo stop rest).map fun (inner, after) => (c :: inner, after)

/-- The characters up to one that closes what is open, and those after it. What stands in quotes,
and in parentheses or braces of its own, does not close it. -/
def enclosed (stop : Char) (inQuotes : Bool) : Nat → List Char → Option (List Char × List Char)
  | 0, _ => none
  | _, [] => none
  | fuel + 1, c :: rest => do
      let part (opening : List Char) (close : Char) (quotes : Bool) (text : List Char) := do
        let (inner, after) ← enclosed close quotes fuel text
        let (more, after) ← enclosed stop inQuotes fuel after
        return (opening ++ inner ++ close :: more, after)
      if c = stop then return ([], rest)
      match c, rest with
      | '\\', d :: rest =>
          let (more, after) ← enclosed stop inQuotes fuel rest
          return (c :: d :: more, after)
      | '$', '(' :: rest => part ['$', '('] ')' false rest
      | '$', '{' :: rest => part ['$', '{'] '}' inQuotes rest
      | _, _ =>
          if c = '\'' && !inQuotes then
            let (inner, after) ← upTo '\'' rest
            let (more, after) ← enclosed stop inQuotes fuel after
            return (c :: inner ++ c :: more, after)
          else if c = '"' then part [c] '"' true rest
          else if c = '`' then part [c] '`' false rest
          else if c = '(' && stop = ')' then part [c] ')' inQuotes rest
          else
            let (more, after) ← enclosed stop inQuotes fuel rest
            return (c :: more, after)

/-- The modifier after the name of a parameter in braces. -/
def modifierOf : List Char → Modifier
  | [] => .none
  | ':' :: '-' :: text => .default true text
  | '-' :: text => .default false text
  | ':' :: '=' :: text => .assign true text
  | '=' :: text => .assign false text
  | ':' :: '+' :: text => .alternative true text
  | '+' :: text => .alternative false text
  | ':' :: '?' :: text => .required true text
  | '?' :: text => .required false text
  | '#' :: '#' :: pattern => .dropStart true pattern
  | '#' :: pattern => .dropStart false pattern
  | '%' :: '%' :: pattern => .dropEnd true pattern
  | '%' :: pattern => .dropEnd false pattern
  | _ => .unknown

/-- The name of a parameter and what follows it: a name, a digit, or a sign. -/
def parameterName : List Char → Option (String × List Char)
  | [] => none
  | c :: rest =>
      if isNameStart c then
        let name := (c :: rest).takeWhile isNameChar
        some (String.ofList name, (c :: rest).drop name.length)
      else if c.isDigit || "@*#?$!-".toList.contains c then some (String.singleton c, rest)
      else none

/-- What a parameter in braces stands for. -/
def braced (body : List Char) (quoted : Bool) : Piece :=
  let digits := body.takeWhile Char.isDigit
  let found :=
    if digits = [] then parameterName body
    else some (String.ofList digits, body.drop digits.length)
  match body, found with
  | '#' :: c :: rest, _ =>
      match parameterName (c :: rest) with
      | some (name, []) => .parameter name .length quoted
      | _ => .parameter "#" (modifierOf (c :: rest)) quoted
  | _, some (name, rest) => .parameter name (modifierOf rest) quoted
  | _, none => .parameter "" .unknown quoted

/-- The message for what is opened and not closed. -/
def unclosed : Char → String
  | '(' => "end of file unexpected (expecting \")\")"
  | '{' => "Missing '\x7d'"
  | '`' => "EOF in backquote substitution"
  | _ => "Unterminated quoted string"

def orUnclosed {α : Type} (opening : Char) : Option α → Except String α
  | some value => .ok value
  | none => .error (unclosed opening)

def missingParentheses : String := "Missing '))'"

/-- What follows a dollar sign, and the rest. -/
def expansion (quoted : Bool) (line : Nat) (rest : List Char) :
    Except String (Piece × List Char) :=
  match rest with
  | '(' :: '(' :: body =>
      match enclosed ')' quoted (body.length + 1) body with
      | some (inner, ')' :: after) => .ok (.arithmetic inner quoted, after)
      | _ => .error missingParentheses
  | '(' :: body => do
      let (script, after) ← orUnclosed '(' (enclosed ')' false (body.length + 1) body)
      return (.output script line quoted, after)
  | '{' :: body => do
      let (inner, after) ← orUnclosed '{' (enclosed '}' quoted (body.length + 1) body)
      return (braced inner quoted, after)
  | _ =>
      match parameterName rest with
      | some (name, after) => .ok (.parameter name .none quoted, after)
      | none => .ok (.text ['$'] quoted, rest)

/-- The script between backquotes; backslashes there can stand before backslashes, dollar signs and
backquotes, and between double quotes also before double quotes. -/
def backquoted (quoted : Bool) : List Char → Option (List Char × List Char)
  | [] => none
  | '`' :: rest => some ([], rest)
  | '\\' :: c :: rest =>
      (backquoted quoted rest).map fun (inner, after) =>
        if "\\$`".toList.contains c || (quoted && c = '"') then (c :: inner, after)
        else ('\\' :: c :: inner, after)
  | c :: rest => (backquoted quoted rest).map fun (inner, after) => (c :: inner, after)

/-- Where a text is with regard to a parameter in braces. -/
inductive BracePlace where
  | outside
  | dollar
  | name

/-- The line ends in a text that is not closed. One right behind the name of a parameter in braces
does not count. -/
def countedLines : BracePlace → List Char → Nat
  | _, [] => 0
  | .dollar, '{' :: rest => countedLines .name rest
  | .name, '\n' :: rest => countedLines .outside rest
  | .name, c :: rest => countedLines (if isNameChar c then .name else .outside) rest
  | _, '$' :: rest => countedLines .dollar rest
  | _, '\n' :: rest => countedLines .outside rest + 1
  | _, _ :: rest => countedLines .outside rest

/-- Line ends between two ends of a text. -/
def linesBetween (text after : List Char) : Nat :=
  (text.take (text.length - after.length)).count '\n'

/-- The pieces of a text in which only some characters are special, up to a closing character if one
is given. -/
def quotedPieces (stop : Option Char) : Nat → Nat → List Char → Except String (Word × List Char)
  | 0, _, _ => .error (unclosed '"')
  | _, _, [] => if stop.isSome then .error (unclosed '"') else .ok ([], [])
  | fuel + 1, line, c :: rest => do
      let go (piece : Piece) (lines : Nat) (after : List Char) : Except String (Word × List Char) := do
        let (pieces, last) ← quotedPieces stop fuel (line + lines) after
        return (piece :: pieces, last)
      if some c = stop then return ([], rest)
      match c, rest with
      | '\\', '\n' :: rest => quotedPieces stop fuel (line + 1) rest
      | '\\', d :: rest =>
          if "$`\\".toList.contains d || some d = stop then go (.text [d] true) 0 rest
          else go (.text ['\\', d] true) 0 rest
      | '$', _ =>
          let (piece, after) ← expansion true line rest
          go piece (linesBetween rest after) after
      | '`', _ =>
          let (script, after) ← orUnclosed '`' (backquoted stop.isSome rest)
          go (.output script 1 true) (linesBetween rest after) after
      | _, _ => go (.text [c] true) (if c = '\n' then 1 else 0) rest

/-- The pieces of a text that counts as quoted. -/
def textPieces (line : Nat) (text : List Char) : Except String Word :=
  (quotedPieces none (text.length + 1) line text).map Prod.fst

/-- The pieces of a word, and what follows it: the end of the text or, unless the whole text is a
word, a character that ends words. -/
def wordPieces (whole : Bool) : Nat → Nat → List Char → Except String (Word × List Char)
  | 0, _, _ => .error (unclosed '"')
  | _, _, [] => .ok ([], [])
  | fuel + 1, line, c :: rest => do
      let go (pieces : Word) (lines : Nat) (after : List Char) : Except String (Word × List Char) := do
        let (more, last) ← wordPieces whole fuel (line + lines) after
        return (pieces ++ more, last)
      if !whole && isMeta c then return ([], c :: rest)
      match c, rest with
      | '\'', _ =>
          let (text, after) ← orUnclosed '\'' (upTo '\'' rest)
          go [.text text true] (text.count '\n') after
      | '"', _ =>
          let (pieces, after) ← quotedPieces (some '"') (rest.length + 1) line rest
          let marker := if pieces = [.parameter "@" .none true] then [] else [.text [] true]
          go (marker ++ pieces) (linesBetween rest after) after
      | '\\', '\n' :: rest => go [] 1 rest
      | '\\', d :: rest => go [.text [d] true] 0 rest
      | '$', _ =>
          let (piece, after) ← expansion false line rest
          go [piece] (linesBetween rest after) after
      | '`', _ =>
          let (script, after) ← orUnclosed '`' (backquoted false rest)
          go [.output script 1 false] (linesBetween rest after) after
      | _, _ => go [.text [c] false] (if c = '\n' then 1 else 0) rest

/-- The characters of a piece without quotes and expansions. -/
def plainChars? : Piece → Option (List Char)
  | .text chars false => some chars
  | _ => none

/-- A word without quotes and expansions, as text. -/
def plainText? (word : Word) : Option String :=
  (word.mapM plainChars?).map fun parts => String.ofList parts.flatten

end PapyrusWriter.Shell
