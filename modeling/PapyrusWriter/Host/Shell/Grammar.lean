import PapyrusWriter.Host.Shell.Lexeme
/-!
# From lexemes to scripts

Commands are taken line by line. What does not fit is a fault that names the lexeme and, where only
one could stand there, the one that is expected.
-/

namespace PapyrusWriter.Shell

set_option autoImplicit false

/-- A computation that takes lexemes. -/
abbrev Parse := StateT (List Lexeme) (Except SyntaxFault)

namespace Parse

variable {α : Type}

def keywords : List String :=
  ["!", "case", "do", "done", "elif", "else", "esac", "fi", "for", "if", "in", "then", "until",
    "while", "\x7b", "\x7d"]

/-- The words and marks that end a list of commands. -/
def closers : List String :=
  [")", ";;", "do", "done", "elif", "else", "esac", "fi", "then", "\x7d"]

/-- The commands that functions cannot replace. -/
def specialNames : List String :=
  [".", ":", "break", "continue", "eval", "exec", "exit", "export", "readonly", "return", "set",
    "shift", "times", "trap", "unset"]

/-- The next lexeme. A broken one is a fault. -/
def peek : Parse Lexeme := do
  match ← get with
  | [] => pure ⟨.finish, 1, 1⟩
  | lexeme :: _ =>
      match lexeme.kind with
      | .broken message => throw ⟨message, lexeme.stop⟩
      | _ => pure lexeme

/-- Passes over the next lexeme; the end stays. -/
def skip : Parse Unit :=
  modify fun rest =>
    match rest with
    | _ :: next :: more => next :: more
    | _ => rest

/-- The keyword or mark that a lexeme is. -/
def sign? (lexeme : Lexeme) : Option String :=
  match lexeme.kind with
  | .word word => (plainText? word).filter keywords.contains
  | .mark text => some text
  | _ => none

def peekSign : Parse (Option String) := do return sign? (← peek)

def quote (text : String) : String := "\"" ++ text ++ "\""

/-- How messages name a lexeme. -/
def nameOf (lexeme : Lexeme) (keyword : Bool) : String :=
  match lexeme.kind with
  | .word word =>
      match (plainText? word).filter fun text => keyword && keywords.contains text with
      | some text => quote text
      | none => "word"
  | .mark "\n" => "newline"
  | .mark text => quote text
  | .redirect _ _ | .document _ _ => "redirection"
  | .broken _ | .finish => "end of file"

/-- Fails at the next lexeme. -/
def unexpected (expected : Option String) (keyword : Bool) : Parse α := do
  let lexeme ← peek
  let more := expected.elim "" fun text => " (expecting " ++ text ++ ")"
  throw ⟨nameOf lexeme keyword ++ " unexpected" ++ more, lexeme.stop⟩

/-- Takes a certain keyword or mark. -/
def expect (text : String) : Parse Unit := do
  if (← peekSign) = some text then skip else unexpected (some (quote text)) true

/-- Takes a word. -/
def word (expected : Option String) : Parse Word := do
  match (← peek).kind with
  | .word found =>
      skip
      pure found
  | _ => unexpected expected false

/-- Passes over line ends. -/
def newlines : Nat → Parse Unit
  | 0 => pure ()
  | fuel + 1 => do
      if (← peekSign) = some "\n" then
        skip
        newlines fuel

/-- Takes a redirection, if one is next. -/
def redirect? : Parse (Option Redirect) := do
  match (← peek).kind with
  | .redirect channel kind =>
      skip
      return some ⟨channel, kind, ← word none⟩
  | .document channel text =>
      skip
      return some ⟨channel, .here, text⟩
  | _ => return none

/-- Takes redirections. -/
def redirects : Nat → Parse (List Redirect)
  | 0 => pure []
  | fuel + 1 => do
      match ← redirect? with
      | some first => return first :: (← redirects fuel)
      | none => return []

/-- A word that sets a variable. -/
def assignment? (pieces : Word) : Option (String × Word) :=
  let leading := pieces.takeWhile fun piece => (plainChars? piece).any (· ≠ ['='])
  match plainText? leading, pieces.drop leading.length with
  | some name, .text ['='] false :: value => if isName name.toList then some (name, value) else none
  | _, _ => none

/-- The parts of a simple command. -/
structure Parts where
  assignments : List (String × Word) := []
  words : List Word := []
  redirects : List Redirect := []

/-- Takes the parts of a simple command after those before; the lists are in reverse order. -/
def simpleParts : Nat → Parts → Parse Parts
  | 0, parts => pure parts
  | fuel + 1, parts => do
      match ← redirect? with
      | some found => simpleParts fuel { parts with redirects := found :: parts.redirects }
      | none =>
          match (← peek).kind with
          | .word found =>
              skip
              match parts.words.isEmpty, assignment? found with
              | true, some assignment =>
                  simpleParts fuel { parts with assignments := assignment :: parts.assignments }
              | _, _ => simpleParts fuel { parts with words := found :: parts.words }
          | _ => pure parts

/-- Takes words up to another lexeme. -/
def words : Nat → Parse (List Word)
  | 0 => pure []
  | fuel + 1 => do
      match (← peek).kind with
      | .word found =>
          skip
          return found :: (← words fuel)
      | _ => pure []

/-- Takes the patterns of a branch, up to the parenthesis after them. -/
def patterns : Nat → Parse (List Word)
  | 0 => pure []
  | fuel + 1 => do
      let pattern ← word (some (quote ")"))
      if (← peekSign) = some "|" then
        skip
        return pattern :: (← patterns fuel)
      else if (← peek).kind = .mark ")" then
        skip
        return [pattern]
      else unexpected (some (quote ")")) false

/-- The name of a function whose parentheses are next, if the parts before them are one. -/
def functionName? (parts : Parts) : Parse (Option String) := do
  match parts.words, parts.assignments, parts.redirects, (← peek).kind with
  | [name], [], [], .mark "(" =>
      skip
      let close ← peek
      if close.kind ≠ .mark ")" then unexpected (some (quote ")")) false
      skip
      match plainText? name with
      | some text =>
          if isName text.toList && !specialNames.contains text then return some text
          else throw ⟨"Bad function name", close.stop⟩
      | none => throw ⟨"Bad function name", close.stop⟩
  | _, _, _, _ => return none

/-- Takes the words that a variable goes through: those after `in`, or the arguments. -/
def loopWords (fuel : Nat) : Parse (List Word) := do
  newlines fuel
  if (← peekSign) = some "in" then
    skip
    let found ← words fuel
    match ← peekSign with
    | some "\n" | some ";" => skip
    | _ => unexpected none false
    return found
  else
    if (← peekSign) = some ";" then skip
    return [[.parameter "@" .none true]]

mutual

/-- Takes a list of commands up to a closing word or mark. It cannot be empty unless that is
allowed. -/
def list (canBeEmpty : Bool) : Nat → Parse Script
  | 0 => pure .nothing
  | fuel + 1 => do
      newlines fuel
      let next ← peek
      if next.kind = .finish then return .nothing
      if canBeEmpty && (sign? next).any closers.contains then return .nothing
      let first ← andOr fuel
      match ← peekSign with
      | some "&" =>
          skip
          return .sequence (.background first) (← list true fuel)
      | some ";" =>
          skip
          return .sequence first (← list true fuel)
      | some "\n" => return .sequence first (← list true fuel)
      | _ => return first

/-- Takes pipelines joined by `&&` and `||`. -/
def andOr : Nat → Parse Script
  | 0 => pure .nothing
  | fuel + 1 => do
      let first ← pipeline fuel
      andOrRest fuel first

def andOrRest : Nat → Script → Parse Script
  | 0, first => pure first
  | fuel + 1, first => do
      match ← peekSign with
      | some "&&" =>
          skip
          newlines fuel
          andOrRest fuel (.both first (← pipeline fuel))
      | some "||" =>
          skip
          newlines fuel
          andOrRest fuel (.either first (← pipeline fuel))
      | _ => pure first

/-- Takes commands joined by `|`. -/
def pipeline : Nat → Parse Script
  | 0 => pure .nothing
  | fuel + 1 => do
      if (← peekSign) = some "!" then
        skip
        return .negated (← piped fuel)
      else piped fuel

def piped : Nat → Parse Script
  | 0 => pure .nothing
  | fuel + 1 => do
      let first ← command fuel
      if (← peekSign) = some "|" then
        skip
        newlines fuel
        return .pipe first (← piped fuel)
      else pure first

/-- Takes a command. -/
def command : Nat → Parse Script
  | 0 => pure .nothing
  | fuel + 1 => do
      let start := (← peek).line
      let grouped (close : String) (inner : Script) : Parse Script := do
        expect close
        return .group start inner (← redirects fuel)
      match ← peekSign with
      | some "if" =>
          skip
          grouped "fi" (← conditionRest fuel)
      | some "while" =>
          skip
          grouped "done" (← loopRest true fuel)
      | some "until" =>
          skip
          grouped "done" (← loopRest false fuel)
      | some "for" =>
          skip
          let lexeme ← peek
          let name : Option String :=
            match lexeme.kind with
            | .word found => (plainText? found).filter fun text => isName text.toList
            | _ => none
          match name with
          | none => throw ⟨"Bad for loop variable", lexeme.stop⟩
          | some name =>
              skip
              let items ← loopWords fuel
              newlines fuel
              expect "do"
              grouped "done" (.each name items (← list false fuel))
      | some "case" =>
          skip
          let subject ← word (some "word")
          newlines fuel
          expect "in"
          grouped "esac" (.choice subject (← branches fuel))
      | some "\x7b" =>
          skip
          grouped "\x7d" (← list false fuel)
      | some "(" =>
          skip
          let inner ← list false fuel
          expect ")"
          return .subshell start inner (← redirects fuel)
      | some _ => unexpected none true
      | none =>
          if (← peek).kind = .finish then unexpected none true
          let parts ← simpleParts fuel {}
          match ← functionName? parts with
          | some name =>
              newlines fuel
              return .function name (← command fuel)
          | none =>
              return .simple start parts.assignments.reverse parts.words.reverse
                parts.redirects.reverse

/-- Takes the rest of a condition after `if` or `elif`, but for the last word. -/
def conditionRest : Nat → Parse Script
  | 0 => pure .nothing
  | fuel + 1 => do
      let test ← list false fuel
      expect "then"
      let yes ← list false fuel
      match ← peekSign with
      | some "elif" =>
          skip
          return .condition test yes (← conditionRest fuel)
      | some "else" =>
          skip
          return .condition test yes (← list false fuel)
      | _ => return .condition test yes .nothing

/-- Takes the rest of a loop, but for the last word. -/
def loopRest (whileTrue : Bool) : Nat → Parse Script
  | 0 => pure .nothing
  | fuel + 1 => do
      let test ← list false fuel
      expect "do"
      return .loop whileTrue test (← list false fuel)

/-- Takes the branches of a choice up to its last word. -/
def branches : Nat → Parse (List (List Word × Script))
  | 0 => pure []
  | fuel + 1 => do
      newlines fuel
      if (← peekSign) = some "esac" then return []
      if (← peek).kind = .mark "(" then skip
      let accepted ← patterns fuel
      let body ← list true fuel
      match ← peekSign with
      | some ";;" =>
          skip
          return (accepted, body) :: (← branches fuel)
      | some "esac" => return [(accepted, body)]
      | _ => unexpected (some (quote ";;")) true

end

/-- Takes the commands of a line, or nothing at the end. -/
def commandLine : Nat → Parse Script
  | 0 => pure .nothing
  | fuel + 1 => do
      let first ← andOr fuel
      let again (first : Script) : Parse Script := do
        skip
        let next ← peek
        if next.kind = .finish || next.kind = .mark "\n" then return first
        return .sequence first (← commandLine fuel)
      match (← peek).kind with
      | .mark "&" => again (.background first)
      | .mark ";" => again first
      | .mark "\n" | .finish => return first
      | _ => unexpected none true

/-- The commands of lexemes, line by line. -/
def program (bound : Nat) : Nat → List Lexeme → Program
  | 0, _ => ⟨[], none⟩
  | fuel + 1, lexemes =>
      let step : Parse (Option Script) := do
        newlines bound
        if (← peek).kind = .finish then return none
        return some (← commandLine bound)
      match step.run lexemes with
      | .error fault => ⟨[], some fault⟩
      | .ok (none, _) => ⟨[], none⟩
      | .ok (some first, rest) =>
          let more := program bound fuel rest
          ⟨first :: more.commands, more.fault⟩

end Parse

/-- The commands of a script that starts in a line. -/
def parse (line : Nat) (text : List Char) : Program :=
  let found := lexemes (text.length + 1) line 0 text
  Parse.program (8 * found.length + 8) (found.length + 1) found

end PapyrusWriter.Shell
