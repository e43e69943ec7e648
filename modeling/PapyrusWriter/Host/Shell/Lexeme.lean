import PapyrusWriter.Host.Shell.Word
/-!
# Lexemes of scripts

Words, marks and redirections, each with the lines where it starts and ends. A document for the
input of a command stands in the lines behind the command; it is taken out of them and goes with its
redirection.
-/

namespace PapyrusWriter.Shell

set_option autoImplicit false

inductive LexemeKind where
  | word (word : Word)
  | mark (text : String)
  | redirect (channel : Nat) (kind : RedirectKind)
  /-- A redirection with the document that it is from. -/
  | document (channel : Nat) (text : Word)
  | broken (message : String)
  | finish
deriving DecidableEq

structure Lexeme where
  kind : LexemeKind
  line : Nat
  stop : Nat
deriving DecidableEq

/-- A redirection that starts here, with the channel that it is for by default. -/
def redirectAt : List Char → Option (Nat × RedirectKind × List Char)
  | '>' :: '>' :: rest => some (1, .append, rest)
  | '>' :: '&' :: rest => some (1, .copy, rest)
  | '>' :: '|' :: rest => some (1, .write, rest)
  | '>' :: rest => some (1, .write, rest)
  | '<' :: '<' :: rest => some (0, .here, rest)
  | '<' :: '&' :: rest => some (0, .copy, rest)
  | '<' :: '>' :: rest => some (0, .readWrite, rest)
  | '<' :: rest => some (0, .read, rest)
  | _ => none

/-- A redirection with the digit of its channel before it. -/
def numberedRedirect : List Char → Option (Nat × RedirectKind × List Char)
  | c :: rest =>
      if c.isDigit then
        (redirectAt rest).map fun (_, kind, rest) => (c.toNat - 48, kind, rest)
      else redirectAt (c :: rest)
  | [] => none

/-- A mark that starts here. -/
def markAt : List Char → Option (String × List Char)
  | '&' :: '&' :: rest => some ("&&", rest)
  | '|' :: '|' :: rest => some ("||", rest)
  | ';' :: ';' :: rest => some (";;", rest)
  | ';' :: rest => some (";", rest)
  | '&' :: rest => some ("&", rest)
  | '|' :: rest => some ("|", rest)
  | '(' :: rest => some ("(", rest)
  | ')' :: rest => some (")", rest)
  | '\n' :: rest => some ("\n", rest)
  | _ => none

/-! ## Documents -/

/-- A line of a text with its end, and the rest. -/
def splitLine (text : List Char) : List Char × List Char :=
  let line := text.takeWhile (· ≠ '\n')
  match text.drop line.length with
  | c :: rest => (line ++ [c], rest)
  | [] => (line, [])

/-- The lines up to one that is the delimiter, and the rest after that. If `strip`, tabs at the
start of lines do not count. -/
def documentLines (strip : Bool) (delimiter : List Char) : Nat → List Char → List Char × List Char
  | 0, text => ([], text)
  | _, [] => ([], [])
  | fuel + 1, text =>
      let (line, rest) := splitLine text
      let line := if strip then line.dropWhile (· = '\t') else line
      if line.takeWhile (· ≠ '\n') = delimiter then ([], rest)
      else
        let (more, after) := documentLines strip delimiter fuel rest
        (line ++ more, after)

/-- The characters of a word that is a delimiter; quotes do not belong to it. -/
def delimiterOf (word : Word) : List Char :=
  word.flatMap fun piece =>
    match piece with
    | .text chars _ => chars
    | .parameter name _ _ => '$' :: name.toList
    | _ => []

/-- Whether a part of a word is quoted. -/
def isQuoted (word : Word) : Bool :=
  word.any fun piece =>
    match piece with
    | .text _ quoted => quoted
    | _ => false

/-- Whether no word follows. -/
def lacksWord (rest : List Char) : Bool := (rest.dropWhile isBlank).head?.all isMeta

/-- The document that a redirection asks for, the text behind the delimiter without the lines of the
document, and the number of those. -/
def takeDocument (line : Nat) (rest : List Char) :
    Except String (Word × List Char × Nat) := do
  let strip := rest.head? = some '-'
  let start := (if strip then rest.drop 1 else rest).dropWhile isBlank
  let (word, after) ← wordPieces false (start.length + 1) line start
  let (current, below) := splitLine after
  let (body, behind) := documentLines strip (delimiterOf word) (below.length + 1) below
  let text ← if isQuoted word then .ok [.text body true] else textPieces (line + 1) body
  return (text, current ++ behind, below.count '\n' - behind.count '\n')

/-! ## All lexemes -/

/-- The lexemes of a script that starts in a line. `hidden` is the number of lines behind the current
one that were taken out. -/
def lexemes : Nat → Nat → Nat → List Char → List Lexeme
  | 0, line, _, _ => [⟨.finish, line, line⟩]
  | _, line, hidden, [] => [⟨.finish, line + hidden, line + hidden⟩]
  | fuel + 1, line, hidden, c :: rest =>
      let text := c :: rest
      let broken (message : String) : List Lexeme :=
        [⟨.broken message, line, line + hidden + countedLines .outside text⟩]
      if isBlank c then lexemes fuel line hidden rest
      else if c = '\\' && rest.head? = some '\n' then lexemes fuel (line + 1) hidden (rest.drop 1)
      else if c = '#' then lexemes fuel line hidden (rest.dropWhile (· ≠ '\n'))
      else
        match numberedRedirect text, markAt text with
        | some (channel, .here, after), _ =>
            if lacksWord after then
              ⟨.redirect channel .here, line, line⟩ :: lexemes fuel line hidden after
            else
            match takeDocument line after with
            | .ok (document, after, lines) =>
                ⟨.document channel document, line, line⟩ :: lexemes fuel line (hidden + lines) after
            | .error message => broken message
        | some (channel, kind, after), _ =>
            ⟨.redirect channel kind, line, line⟩ :: lexemes fuel line hidden after
        | none, some ("\n", after) =>
            let next := line + 1 + hidden
            ⟨.mark "\n", line, next⟩ :: lexemes fuel next 0 after
        | none, some (mark, after) => ⟨.mark mark, line, line⟩ :: lexemes fuel line hidden after
        | none, none =>
            match wordPieces false (text.length + 1) line text with
            | .ok (word, after) =>
                let stop := line + linesBetween text after
                ⟨.word word, line, stop⟩ :: lexemes fuel stop hidden after
            | .error message => broken message

end PapyrusWriter.Shell
