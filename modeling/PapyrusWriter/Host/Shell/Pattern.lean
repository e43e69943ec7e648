import PapyrusWriter.Glob
import PapyrusWriter.Host.FileSystem
/-!
# Patterns in scripts

Patterns choose a branch, cut texts, and stand for the names of files. Quoted characters in them
stand for themselves.
-/

namespace PapyrusWriter.Shell

set_option autoImplicit false

/-- A character, and whether it is quoted. -/
abbrev Marked := Char × Bool

def marked (quoted : Bool) (chars : List Char) : List Marked := chars.map fun c => (c, quoted)

def unmarked (field : List Marked) : List Char := field.map Prod.fst

/-- The pattern that a word is. -/
def patternTokens : Nat → List Marked → List Glob.Token
  | 0, _ => []
  | _, [] => []
  | fuel + 1, (c, true) :: rest => .literal c :: patternTokens fuel rest
  | fuel + 1, ('*', false) :: rest => .anyRun :: patternTokens fuel rest
  | fuel + 1, ('?', false) :: rest => .anyChar :: patternTokens fuel rest
  | fuel + 1, ('[', false) :: rest =>
      let chars := unmarked rest
      match Glob.bracket chars with
      | some (token, after) => token :: patternTokens fuel (rest.drop (chars.length - after.length))
      | none => .literal '[' :: patternTokens fuel rest
  | fuel + 1, (c, false) :: rest => .literal c :: patternTokens fuel rest

/-- Whether a pattern accepts a text. -/
def accepts (pattern : List Marked) (text : List Char) : Bool :=
  (Glob.verdicts (patternTokens (pattern.length + 1) pattern) text).headD false

/-- The ways to cut a text in two, the shortest first part first. -/
def cuts (text : List Char) : List (List Char × List Char) :=
  (List.range (text.length + 1)).map fun n => (text.take n, text.drop n)

/-- The text without a start that a pattern accepts. -/
def dropStart (longest : Bool) (pattern : List Marked) (text : List Char) : List Char :=
  let options := (cuts text).filter fun (start, _) => accepts pattern start
  (((if longest then options.getLast? else options.head?)).map Prod.snd).getD text

/-- The text without an end that a pattern accepts. -/
def dropEnd (longest : Bool) (pattern : List Marked) (text : List Char) : List Char :=
  let options := (cuts text).filter fun (_, ending) => accepts pattern ending
  (((if longest then options.head? else options.getLast?)).map Prod.fst).getD text

/-! ## Names of files -/

def isPattern (field : List Marked) : Bool :=
  field.any fun (c, quoted) => !quoted && (c = '*' || c = '?' || c = '[')

/-- The parts of a field between separators. -/
def components : List Marked → List (List Marked)
  | [] => [[]]
  | (c, quoted) :: rest =>
      if c = '/' then [] :: components rest
      else
        match components rest with
        | first :: more => ((c, quoted) :: first) :: more
        | [] => [[(c, quoted)]]

/-- The names in a directory that a component accepts; those with a dot at the start only if it
starts with one. -/
def namesFor (files : FileSystem) (base : String) (component : List Marked) : List String :=
  let names := ((files.list (if base = "" then "." else base)).toOption).getD []
  let all := if component.head?.any (·.1 = '.') then "." :: ".." :: names else names
  all.filter fun name =>
    accepts component name.toList &&
      (name.toList.head? ≠ some '.' || component.head?.any (·.1 = '.'))

/-- The paths that components accept below a base, which is a path with its last separator. -/
def pathsFor (files : FileSystem) : List (List Marked) → String → List String
  | [], _ => []
  | [last], base =>
      if isPattern last then (namesFor files base last).map (base ++ ·)
      else
        let path := base ++ String.ofList (unmarked last)
        if last = [] || files.exists? path then [path] else []
  | component :: rest, base =>
      if isPattern component then
        (namesFor files base component).flatMap fun name =>
          if files.isDirectory (base ++ name) then pathsFor files rest (base ++ name ++ "/") else []
      else pathsFor files rest (base ++ String.ofList (unmarked component) ++ "/")

/-- The paths that a field stands for in their order, or the field itself if there are none. -/
def fileNames (files : FileSystem) (field : List Marked) : List String :=
  let found := if isPattern field then pathsFor files (components field) "" else []
  if found = [] then [String.ofList (unmarked field)] else found.mergeSort

end PapyrusWriter.Shell
