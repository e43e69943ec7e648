import PapyrusWriter.Host.Shell.Tool.Lines
/-!
# Regular expressions

Expressions are matched from the left, and of the matches at one place the longest one counts. In
the basic form the marks of groups and repetitions have a backslash before them.
-/

namespace PapyrusWriter.Shell

set_option autoImplicit false

inductive Regex where
  | nothing
  | one (accepted : List Char)
  | other (refused : List Char)
  | sequence (first second : Regex)
  | either (first second : Regex)
  /-- So often at least, and at most if that is given. -/
  | many (least : Nat) (most : Option Nat) (inner : Regex)
  | group (number : Nat) (inner : Regex)
  | start
  | finish
  | again (number : Nat)
deriving Inhabited

namespace Regex

/-! ## Matching -/

/-- A way to match: what is left of the line, whether that is the whole of it, and the groups. -/
structure Way where
  rest : List Char
  atStart : Bool
  groups : List (Nat × List Char) := []

/-- The ways in which an expression matches the start of a text. -/
def ways (ignoreCase : Bool) : Nat → Regex → Way → List Way
  | 0, _, _ => []
  | fuel + 1, regex, way =>
      let has (set : List Char) (c : Char) : Bool :=
        set.contains c || (ignoreCase && (set.contains c.toLower || set.contains c.toUpper))
      match regex, way.rest with
      | .nothing, _ => [way]
      | .one accepted, c :: rest => if has accepted c then [{ way with rest, atStart := false }] else []
      | .one _, [] => []
      | .other refused, c :: rest => if has refused c then [] else [{ way with rest, atStart := false }]
      | .other _, [] => []
      | .sequence first second, _ => (ways ignoreCase fuel first way).flatMap (ways ignoreCase fuel second)
      | .either first second, _ => ways ignoreCase fuel first way ++ ways ignoreCase fuel second way
      | .many least most inner, _ =>
          if most = some 0 then [way]
          else
            let longer := (ways ignoreCase fuel inner way).filter fun next =>
              next.rest.length < way.rest.length
            longer.flatMap (ways ignoreCase fuel (.many (least - 1) (most.map (· - 1)) inner)) ++
              (if least = 0 then [way] else [])
      | .group number inner, text =>
          (ways ignoreCase fuel inner way).map fun next =>
            let taken := text.take (text.length - next.rest.length)
            { next with groups := (number, taken) :: next.groups }
      | .start, _ => if way.atStart then [way] else []
      | .finish, text => if text = [] then [way] else []
      | .again number, text =>
          let taken := (way.groups.lookup number).getD []
          if taken.isPrefixOf text then [{ way with rest := text.drop taken.length, atStart := false }] else []

/-- The longest match at the start of a text, with its groups. -/
def longest? (regex : Regex) (ignoreCase atStart : Bool) (text : List Char) :
    Option (List Char × Way) :=
  let found := ways ignoreCase (64 * (text.length + 16)) regex { rest := text, atStart }
  let best := found.foldl (fun best way =>
    match best with
    | none => some way
    | some leader => if way.rest.length < leader.rest.length then some way else best) none
  best.map fun way => (text.take (text.length - way.rest.length), way)

/-- The first match in a text: what is before it, the match and its groups. -/
def search? (regex : Regex) (ignoreCase : Bool) : Bool → List Char → Option (List Char × List Char × Way)
  | atStart, text =>
      match regex.longest? ignoreCase atStart text, text with
      | some (taken, way), _ => some ([], taken, way)
      | none, c :: rest =>
          (search? regex ignoreCase false rest).map fun (before, found) => (c :: before, found)
      | none, [] => none

/-! ## Reading expressions -/

def word : List Char := '_' :: Tool.classOf "alnum"

def spaces : List Char := Tool.classOf "space"

/-- The set between brackets, and the rest. -/
def bracketSet : Nat → List Char → Option (List Char × List Char)
  | 0, _ => none
  | _, [] => none
  | _, ']' :: rest => some ([], rest)
  | fuel + 1, '[' :: ':' :: rest =>
      let name := rest.takeWhile (· ≠ ':')
      (bracketSet fuel (rest.drop (name.length + 2))).map fun (set, after) =>
        (Tool.classOf (String.ofList name) ++ set, after)
  | fuel + 1, low :: '-' :: high :: rest =>
      if high = ']' then (bracketSet fuel (high :: rest)).map fun (set, after) => (low :: '-' :: set, after)
      else
        (bracketSet fuel rest).map fun (set, after) =>
          ((List.range (high.toNat + 1 - low.toNat)).map (fun n => Char.ofNat (low.toNat + n)) ++ set, after)
  | fuel + 1, c :: rest => (bracketSet fuel rest).map fun (set, after) => (c :: set, after)

/-- A set after an opening bracket; a closing one that stands first belongs to it. -/
def bracket (text : List Char) : Option (Regex × List Char) :=
  let (refuse, text) :=
    match text with
    | '^' :: rest => (true, rest)
    | _ => (false, text)
  let (lead, text) :=
    match text with
    | ']' :: rest => ([']'], rest)
    | _ => ([], text)
  (bracketSet (text.length + 1) text).map fun (set, after) =>
    (if refuse then .other (lead ++ set) else .one (lead ++ set), after)

/-- The parts of an expression. -/
inductive Mark where
  | atom (regex : Regex)
  | openGroup
  | closeGroup
  | bar
  | repeated (least : Nat) (most : Option Nat)

/-- The bounds of a repetition. -/
def bounds (text : List Char) : Mark :=
  match Tool.splitAt ',' text with
  | [least, most] =>
      .repeated (Tool.numberOf (String.ofList least))
        (if most = [] then none else some (Tool.numberOf (String.ofList most)))
  | _ =>
      let count := Tool.numberOf (String.ofList text)
      .repeated count (some count)

/-- What a character stands for after a backslash. -/
def escaped (c : Char) : Regex :=
  match c with
  | 'w' => .one word
  | 'W' => .other word
  | 's' => .one spaces
  | 'S' => .other spaces
  | 'n' => .one ['\n']
  | 't' => .one ['\t']
  | _ => if c.isDigit then .again (c.toNat - 48) else .one [c]

/-- The marks that stand alone in the extended form and after a backslash in the basic one. -/
def signOf : Char → Option Mark
  | '(' => some .openGroup
  | ')' => some .closeGroup
  | '|' => some .bar
  | '+' => some (.repeated 1 none)
  | '?' => some (.repeated 0 (some 1))
  | _ => none

/-- The marks of an expression. `first` says that nothing stands before, so that a star is a
character and the sign for the start of a line counts. -/
def marks (extended : Bool) : Nat → Bool → List Char → List Mark
  | 0, _, _ => []
  | _, _, [] => []
  | fuel + 1, _, '\\' :: c :: rest =>
      match if extended then none else signOf c with
      | some mark =>
          let opens := match mark with | .openGroup | .bar => true | _ => false
          mark :: marks extended fuel opens rest
      | none =>
          if c = '{' && !extended then
            let inner := rest.takeWhile (· ≠ '\\')
            bounds inner :: marks extended fuel false (rest.drop (inner.length + 2))
          else .atom (escaped c) :: marks extended fuel false rest
  | fuel + 1, first, c :: rest =>
      match c, if extended then signOf c else none with
      | _, some mark =>
          let opens := match mark with | .openGroup | .bar => true | _ => false
          mark :: marks extended fuel opens rest
      | '*', none =>
          if first then .atom (.one ['*']) :: marks extended fuel false rest
          else .repeated 0 none :: marks extended fuel false rest
      | '.', none => .atom (.other []) :: marks extended fuel false rest
      | '[', none =>
          match bracket rest with
          | some (regex, after) => .atom regex :: marks extended fuel false after
          | none => .atom (.one ['[']) :: marks extended fuel false rest
      | '^', none =>
          if first || extended then .atom .start :: marks extended fuel true rest
          else .atom (.one ['^']) :: marks extended fuel false rest
      | '$', none =>
          let ends := rest = [] || extended || "\\)".toList.isPrefixOf rest || "\\|".toList.isPrefixOf rest
          .atom (if ends then .finish else .one ['$']) :: marks extended fuel false rest
      | '{', none =>
          let inner := rest.takeWhile (· ≠ '}')
          if extended && inner.head?.any Char.isDigit then
            bounds inner :: marks extended fuel false (rest.drop (inner.length + 1))
          else .atom (.one ['{']) :: marks extended fuel false rest
      | _, none => .atom (.one [c]) :: marks extended fuel false rest

/-- The state of reading: the marks that are left and the number of groups so far. -/
abbrev Reader := StateM (List Mark × Nat)

mutual

/-- Reads alternatives. -/
def alternatives : Nat → Reader Regex
  | 0 => return .nothing
  | fuel + 1 => do
      let first ← pieces fuel .nothing
      match (← get).1 with
      | .bar :: rest =>
          modify fun (_, count) => (rest, count)
          return .either first (← alternatives fuel)
      | _ => return first

/-- Reads a sequence after what is read of it. -/
def pieces : Nat → Regex → Reader Regex
  | 0, before => return before
  | fuel + 1, before => do
      match ← get with
      | (.atom regex :: rest, count) =>
          set (rest, count)
          pieces fuel (.sequence before (← repetitions fuel regex))
      | (.openGroup :: rest, count) =>
          set (rest, count + 1)
          let inner ← alternatives fuel
          modify fun (rest, count) => (rest.drop 1, count)
          pieces fuel (.sequence before (← repetitions fuel (.group (count + 1) inner)))
      | (.repeated _ _ :: rest, count) =>
          set (rest, count)
          pieces fuel before
      | _ => return before

/-- Reads the repetitions of a piece. -/
def repetitions : Nat → Regex → Reader Regex
  | 0, regex => return regex
  | fuel + 1, regex => do
      match ← get with
      | (.repeated least most :: rest, count) =>
          set (rest, count)
          repetitions fuel (.many least most regex)
      | _ => return regex

end

/-- The expression that a text is. -/
def ofText (extended : Bool) (text : List Char) : Regex :=
  let found := marks extended (text.length + 1) true text
  ((alternatives (8 * found.length + 8)).run (found, 0)).1

/-- The expression that stands for the text itself. -/
def literal (text : List Char) : Regex :=
  text.foldr (fun c rest => .sequence (.one [c]) rest) .nothing

end Regex

end PapyrusWriter.Shell
