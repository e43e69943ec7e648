/-!
# File name patterns

`?` stands for any character, `*` for any run of characters, `**` as a whole component for any
number of directories, and brackets for one character of a set. Separators and leading dots are
characters like all others.
-/

namespace PapyrusWriter

set_option autoImplicit false

namespace Glob

/-- Why a text is no pattern. -/
inductive FaultKind where
  | invalidRange
  | tooManyStars
  | partialComponent
deriving DecidableEq

/-- A fault and the position of the character where it is found. -/
structure Fault where
  kind : FaultKind
  position : Nat
deriving DecidableEq

namespace Fault

def message (fault : Fault) : String :=
  let text :=
    match fault.kind with
    | .invalidRange => "invalid range pattern"
    | .tooManyStars => "wildcards are either regular `*` or recursive `**`"
    | .partialComponent => "recursive wildcards must form a single path component"
  "Pattern syntax error near position " ++ toString fault.position ++ ": " ++ text

end Fault

/-- A character, or all characters between two. -/
inductive Range where
  | one (c : Char)
  | between (low high : Char)
deriving DecidableEq

def Range.contains (c : Char) : Range → Bool
  | .one d => c == d
  | .between low high => low ≤ c && c ≤ high

inductive Token where
  | literal (c : Char)
  | anyChar
  | anyRun
  | anyDirectories
  | within (ranges : List Range)
  | outside (ranges : List Range)
deriving DecidableEq

/-- The set that is written between brackets. A `-` between two characters makes a range. -/
def ranges : List Char → List Range
  | low :: '-' :: high :: rest => .between low high :: ranges rest
  | c :: rest => .one c :: ranges rest
  | [] => []

/-- The characters before the first closing bracket, and those after it. -/
def untilBracket : List Char → Option (List Char × List Char)
  | [] => none
  | c :: rest =>
      if c = ']' then some ([], rest)
      else (untilBracket rest).map fun (inner, after) => (c :: inner, after)

/-- The set after an opening bracket, and what follows its closing bracket. A closing bracket that
stands first belongs to the set. -/
def bracket : List Char → Option (Token × List Char)
  | '!' :: first :: rest =>
      (untilBracket rest).map fun (inner, after) => (.outside (ranges (first :: inner)), after)
  | '!' :: [] => none
  | first :: rest =>
      (untilBracket rest).map fun (inner, after) => (.within (ranges (first :: inner)), after)
  | [] => none

/-- The tokens of a pattern. `previous` is the character before the rest, and `position` the place
of the rest; the fuel is at least the number of characters left. -/
def scan : Nat → Option Char → Nat → List Char → Except Fault (List Token)
  | 0, _, _, _ => .ok []
  | _, _, _, [] => .ok []
  | fuel + 1, previous, position, '*' :: rest =>
      let more := (rest.takeWhile (· = '*')).length
      let after := rest.drop more
      match more with
      | 0 => (scan fuel (some '*') (position + 1) after).map (.anyRun :: ·)
      | 1 =>
          if previous ≠ none && previous ≠ some '/' then .error ⟨.partialComponent, position - 1⟩
          else
            match after with
            | [] => .ok [.anyDirectories]
            | '/' :: below => (scan fuel (some '/') (position + 3) below).map (.anyDirectories :: ·)
            | _ => .error ⟨.partialComponent, position + 2⟩
      | _ => .error ⟨.tooManyStars, position + 2⟩
  | fuel + 1, _, position, '[' :: rest =>
      match bracket rest with
      | some (token, after) =>
          (scan fuel (some ']') (position + 1 + (rest.length - after.length)) after).map (token :: ·)
      | none => .error ⟨.invalidRange, position⟩
  | fuel + 1, _, position, '?' :: rest =>
      (scan fuel (some '?') (position + 1) rest).map (.anyChar :: ·)
  | fuel + 1, _, position, c :: rest =>
      (scan fuel (some c) (position + 1) rest).map (.literal c :: ·)

/-- Whether some end of the text is accepted. -/
def anySuffix (accept : List Char → Bool) : List Char → Bool
  | [] => accept []
  | c :: rest => accept (c :: rest) || anySuffix accept rest

/-- Whether some end of the text that follows a separator, or the empty end, is accepted. -/
def anyBelow (accept : List Char → Bool) : List Char → Bool
  | [] => accept []
  | c :: rest => (c = '/' && accept rest) || anyBelow accept rest

/-- Whether a text is made up of what the tokens stand for. -/
def acceptsAll : List Token → List Char → Bool
  | [], text => text.isEmpty
  | .anyRun :: rest, text => anySuffix (acceptsAll rest) text
  | .anyDirectories :: rest, text => acceptsAll rest text || anyBelow (acceptsAll rest) text
  | .literal c :: rest, d :: text => c == d && acceptsAll rest text
  | .anyChar :: rest, _ :: text => acceptsAll rest text
  | .within set :: rest, d :: text => set.any (·.contains d) && acceptsAll rest text
  | .outside set :: rest, d :: text => !set.any (·.contains d) && acceptsAll rest text
  | _ :: _, [] => false

/-! ## All ends of a text at once

A pattern with several stars can be laid on a text in very many ways. What counts of them is only
which ends of the text the rest of the pattern accepts, and that is found token by token, from the
last one to the first. -/

/-- The ends of a text, from the whole of it to the empty one. -/
def ends : List Char → List (List Char)
  | [] => [[]]
  | c :: rest => (c :: rest) :: ends rest

/-- The verdicts on the ends of a text from those of what follows one character. -/
def afterChar (accept : Char → Bool) : List Char → List Bool → List Bool
  | c :: text, _ :: later => (accept c && later.headD false) :: afterChar accept text later
  | _, _ => [false]

/-- The verdicts from those of what follows a run of characters. -/
def afterRun : List Bool → List Bool
  | [] => []
  | verdict :: later =>
      let rest := afterRun later
      (verdict || rest.headD false) :: rest

/-- The verdicts from those of what follows a separator further on, or the whole text. -/
def afterSeparator : List Char → List Bool → List Bool
  | c :: text, _ :: later =>
      let rest := afterSeparator text later
      ((c = '/' && later.headD false) || rest.headD false) :: rest
  | _, verdicts => verdicts

/-- Which ends of a text are made up of what the tokens stand for. -/
def verdicts : List Token → List Char → List Bool
  | [], text => (ends text).map List.isEmpty
  | .anyRun :: rest, text => afterRun (verdicts rest text)
  | .anyDirectories :: rest, text =>
      let later := verdicts rest text
      List.zipWith (· || ·) later (afterSeparator text later)
  | .literal c :: rest, text => afterChar (c == ·) text (verdicts rest text)
  | .anyChar :: rest, text => afterChar (fun _ => true) text (verdicts rest text)
  | .within set :: rest, text =>
      afterChar (fun d => set.any (·.contains d)) text (verdicts rest text)
  | .outside set :: rest, text =>
      afterChar (fun d => !set.any (·.contains d)) text (verdicts rest text)

@[simp] theorem headD_map_ends (accept : List Char → Bool) (text : List Char) :
    ((ends text).map accept).headD false = accept text := by
  cases text <;> rfl

theorem afterChar_map_ends (test : Char → Bool) (accept whole : List Char → Bool)
    (empty : whole [] = false) (step : ∀ c text, whole (c :: text) = (test c && accept text))
    (text : List Char) : afterChar test text ((ends text).map accept) = (ends text).map whole := by
  induction text with
  | nil => simp [ends, afterChar, empty]
  | cons c text ih => simp only [ends, List.map_cons, afterChar, headD_map_ends, step, ih]

theorem afterRun_map_ends (accept : List Char → Bool) (text : List Char) :
    afterRun ((ends text).map accept) = (ends text).map (anySuffix accept) := by
  induction text with
  | nil => simp [ends, afterRun, anySuffix]
  | cons c text ih => simp only [ends, List.map_cons, afterRun, ih, headD_map_ends, anySuffix]

theorem afterSeparator_map_ends (accept : List Char → Bool) (text : List Char) :
    afterSeparator text ((ends text).map accept) = (ends text).map (anyBelow accept) := by
  induction text with
  | nil => simp [ends, afterSeparator, anyBelow]
  | cons c text ih =>
      simp only [ends, List.map_cons, afterSeparator, ih, headD_map_ends, anyBelow]

theorem zipWith_map_map (f g : List Char → Bool) (texts : List (List Char)) :
    List.zipWith (· || ·) (texts.map f) (texts.map g) = texts.map fun text => f text || g text := by
  induction texts with
  | nil => rfl
  | cons text texts ih => simp only [List.map_cons, List.zipWith_cons_cons, ih]

/-- The verdicts are those of `acceptsAll` on each end of the text. -/
theorem verdicts_eq (tokens : List Token) (text : List Char) :
    verdicts tokens text = (ends text).map (acceptsAll tokens) := by
  induction tokens with
  | nil =>
      simp only [verdicts]
      exact List.map_congr_left fun end_ _ => by simp [acceptsAll]
  | cons token rest ih =>
      cases token with
      | anyRun =>
          rw [verdicts, ih, afterRun_map_ends]
          exact List.map_congr_left fun end_ _ => by simp [acceptsAll]
      | anyDirectories =>
          simp only [verdicts, ih, afterSeparator_map_ends, zipWith_map_map]
          exact List.map_congr_left fun end_ _ => by simp [acceptsAll]
      | _ =>
          rw [verdicts, ih]
          exact afterChar_map_ends _ _ _ rfl (fun _ _ => rfl) text

end Glob

/-- A pattern for paths. -/
structure Glob where
  tokens : List Glob.Token

namespace Glob

def parse (text : String) : Except Fault Glob :=
  (scan text.length none 0 text.toList).map Glob.mk

def accepts (glob : Glob) (path : String) : Bool :=
  (verdicts glob.tokens path.toList).headD false

theorem accepts_eq (glob : Glob) (path : String) :
    glob.accepts path = acceptsAll glob.tokens path.toList := by
  rw [accepts, verdicts_eq, headD_map_ends]

end Glob

end PapyrusWriter
