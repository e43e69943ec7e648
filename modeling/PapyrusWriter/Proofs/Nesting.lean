import PapyrusWriter.Proofs.Flattening
import PapyrusWriter.Proofs.IdentifierForm
/-!
# Blocks are well nested

A line is marked by its first word. The marks of rendered statements follow the grammar `Nested`:
every `If` has its `EndIf`, with `ElseIf` parts and at most one `Else` part between them, and every
`While` has its `EndWhile` (`Stmt.rendered_blocks_nested`). Two things are asked of the statements:
the lines of expressions and declarations must not start with one of these words themselves, and the
arrays of `range` loops must have well-formed names, since the index variable starts a line.

Marks do not see white space at the ends of a line, so the proof is about the texts of an outline,
and levels and flat loops play no part in it.
-/

namespace PapyrusWriter

set_option autoImplicit false

/-! ## Marks -/

/-- What a line does to the blocks around it. -/
inductive BlockMark where
  | plain
  | openIf
  | elseIf
  | orElse
  | endIf
  | openWhile
  | endWhile
deriving DecidableEq

/-- The characters before the first space of the trimmed line. -/
def firstWord (line : String) : String :=
  String.ofList ((Text.trim line).toList.takeWhile (· ≠ ' '))

namespace BlockMark

def ofWord : String → BlockMark
  | "If" => .openIf
  | "ElseIf" => .elseIf
  | "Else" => .orElse
  | "EndIf" => .endIf
  | "While" => .openWhile
  | "EndWhile" => .endWhile
  | _ => .plain

def ofLine (line : String) : BlockMark := ofWord (firstWord line)

theorem ofLine_trim (line : String) : ofLine (Text.trim line) = ofLine line := by
  rw [ofLine, ofLine, firstWord, firstWord, Text.trim_trim]

theorem ofLine_line (level : Nat) (text : String) :
    ofLine (Page.line level text) = ofLine text := by
  rw [ofLine, ofLine, firstWord, firstWord, Text.trim_line]

end BlockMark

mutual

/-- A sequence of blocks and plain lines. -/
inductive Nested : List BlockMark → Prop where
  | nil : Nested []
  | cons {item rest : List BlockMark} : NestedItem item → Nested rest → Nested (item ++ rest)

inductive NestedItem : List BlockMark → Prop where
  | plain : NestedItem [.plain]
  | choice {body chain last : List BlockMark} :
      Nested body → NestedElseIfs chain → NestedElse last →
      NestedItem (.openIf :: (body ++ (chain ++ (last ++ [.endIf]))))
  | loop {body : List BlockMark} : Nested body → NestedItem (.openWhile :: (body ++ [.endWhile]))

inductive NestedElseIfs : List BlockMark → Prop where
  | nil : NestedElseIfs []
  | cons {body rest : List BlockMark} : Nested body → NestedElseIfs rest →
      NestedElseIfs (.elseIf :: (body ++ rest))

inductive NestedElse : List BlockMark → Prop where
  | none : NestedElse []
  | some {body : List BlockMark} : Nested body → NestedElse (.orElse :: body)

end

namespace Nested

theorem single {item : List BlockMark} (nested : NestedItem item) : Nested item := by
  simpa using Nested.cons nested .nil

theorem append {front back : List BlockMark} : Nested front → Nested back → Nested (front ++ back)
  | .nil, backs => backs
  | .cons item rest, backs => by
      rw [List.append_assoc]
      exact .cons item (rest.append backs)

theorem of_plain {marks : List BlockMark} (plain : ∀ mark ∈ marks, mark = .plain) :
    Nested marks := by
  induction marks with
  | nil => exact .nil
  | cons mark rest ih =>
      rw [List.forall_mem_cons] at plain
      rw [plain.1]
      exact .cons .plain (ih plain.2)

end Nested

/-! ## First words -/

/-- A word at the front is not touched by trimming. -/
theorem Text.trimList_append {word rest : List Char} (filled : word ≠ [])
    (solid : ∀ c ∈ word, isBlank c = false) :
    trimList (word ++ rest) = word ++ rest.rdropWhile isBlank := by
  have front : (word ++ rest).dropWhile isBlank = word ++ rest := by
    obtain ⟨c, cs, rfl⟩ := List.exists_cons_of_ne_nil filled
    exact List.dropWhile_cons_of_neg (by simp [solid c List.mem_cons_self])
  have back : word.reverse.dropWhile isBlank = word.reverse := by
    rw [← List.reverse_eq_iff]
    refine List.rdropWhile_eq_self_iff.mpr fun filled blank => ?_
    exact absurd blank (by simp [solid _ (List.getLast_mem filled)])
  rw [trimList_eq, front, List.rdropWhile, List.rdropWhile, List.reverse_append,
    List.dropWhile_append, back]
  -- Either the rest is white space and goes, or trimming ends inside of it.
  split
  · rename_i blank
    rw [List.isEmpty_iff.mp blank, List.reverse_nil, List.append_nil, List.reverse_reverse]
  · rw [List.reverse_append, List.reverse_reverse]

/-- Whether the text is a word: not empty, and without white space. -/
def Text.isSolid (word : String) : Bool :=
  !word.toList.isEmpty && word.toList.all (!isBlank ·)

theorem Text.isSolid_iff (word : String) :
    isSolid word = true ↔ word.toList ≠ [] ∧ ∀ c ∈ word.toList, isBlank c = false := by
  simp [isSolid]

/-- The first word of a line that is a word, alone or before a space. -/
theorem firstWord_eq {line word : String} {rest : List Char}
    (split : line.toList = word.toList ++ rest) (solid : Text.isSolid word = true)
    (apart : ∀ c ∈ rest.head?, c = ' ') : firstWord line = word := by
  rw [Text.isSolid_iff] at solid
  have spaceless : ∀ c ∈ word.toList, decide (c ≠ ' ') = true := by
    intro c member
    have visible := solid.2 c member
    rw [decide_eq_true_iff]
    rintro rfl
    cases visible
  have ends : (rest.rdropWhile Text.isBlank).takeWhile (· ≠ ' ') = [] := by
    obtain ⟨blanks, joined⟩ := List.rdropWhile_prefix Text.isBlank (l := rest)
    cases kept : rest.rdropWhile Text.isBlank with
    | nil => rfl
    | cons c cs =>
        rw [kept, List.cons_append] at joined
        have space := apart c (by rw [← joined]; rfl)
        rw [space]
        rfl
  rw [firstWord, Text.trim, split, String.toList_ofList, Text.trimList_append solid.1 solid.2,
    List.takeWhile_append_of_pos spaceless, ends, List.append_nil, String.ofList_toList]

namespace BlockMark

theorem ofLine_word {word : String} (solid : Text.isSolid word = true) :
    ofLine word = ofWord word := by
  have alone : firstWord word = word := firstWord_eq (List.append_nil _).symm solid nofun
  rw [ofLine, alone]

theorem ofLine_of_space {line word : String} (rest : List Char) (solid : Text.isSolid word = true)
    (split : line.toList = word.toList ++ ' ' :: rest) : ofLine line = ofWord word := by
  have first : firstWord line = word := by
    refine firstWord_eq split solid fun c head => ?_
    exact (Option.some.inj head).symm
  rw [ofLine, first]

theorem ofLine_keywordLine {game : Game} {keyword word line : String} {expr : Expr}
    (rest : List Char) (solid : Text.isSolid word = true)
    (split : keyword.toList ++ [' '] = word.toList ++ ' ' :: rest)
    (written : keywordLine game keyword expr = .ok line) : ofLine line = ofWord word := by
  unfold keywordLine at written
  cases text : expr.render game with
  | error error =>
      rw [text] at written
      cases written
  | ok value =>
      rw [text] at written
      cases written
      refine ofLine_of_space (rest ++ value.toList) solid ?_
      calc (keyword ++ " " ++ value).toList
          = keyword.toList ++ [' '] ++ value.toList := by simp
        _ = word.toList ++ ' ' :: (rest ++ value.toList) := by rw [split]; simp

/-- No keyword ends like an index variable. -/
theorem ofWord_of_getLast {word : String} (last : word.toList.getLast? = some 'x') :
    ofWord word = .plain := by
  fun_cases ofWord word with
  | case7 => rfl
  | _ => exact absurd last (by decide)

theorem ofLine_index {array : Identifier} (formed : array.isWellFormed = true) :
    ofLine (indexName array ++ " += 1") = .plain := by
  have solid : Text.isSolid (indexName array) = true := by
    have ending := (Text.isSolid_iff "Index").mp rfl
    rw [Text.isSolid_iff, indexName, String.toList_append, List.forall_mem_append]
    refine ⟨by simp, fun c among => ?_, ending.2⟩
    rcases Identifier.char_of_normalized formed c among with part | rfl
    · exact Identifier.isBlank_of_isLetterOrDigit part
    · rfl
  rw [ofLine_of_space ['+', '=', ' ', '1'] solid (by simp)]
  exact ofWord_of_getLast (by simp [indexName])

end BlockMark

/-! ## Marks of an outline -/

/-- A form followed by another one. -/
def BlockMark.Then (first second : List BlockMark → Prop) (marks : List BlockMark) : Prop :=
  ∃ front back, first front ∧ second back ∧ front ++ back = marks

/-- If the outline has texts, their marks have a form. -/
def Outline.Yields (outline : Outline) (form : List BlockMark → Prop) : Prop :=
  ∀ texts, outline.texts = .ok texts → form (texts.map BlockMark.ofLine)

namespace Outline.Yields

variable {first second : Outline} {form other : List BlockMark → Prop} {mark : BlockMark}

theorem mono (yields : first.Yields form) (weaker : ∀ {marks}, form marks → other marks) :
    first.Yields other :=
  fun texts succeeds => weaker (yields texts succeeds)

theorem skip (empty : form []) : Outline.skip.Yields form := by
  intro texts succeeds
  cases succeeds
  exact empty

theorem emit {text : String} (marked : BlockMark.ofLine text = mark) :
    (Outline.emit text).Yields (· = [mark]) := by
  intro texts succeeds
  cases succeeds
  rw [List.map_singleton, BlockMark.ofLine_trim, marked]

theorem need {value : Except TranspileError String} {next : String → Outline}
    (yields : ∀ text, value = .ok text → (next text).Yields form) :
    (Outline.need value next).Yields form := by
  cases value with
  | error error => exact nofun
  | ok text => exact yields text rfl

theorem emitLine {value : Except TranspileError String}
    (marked : ∀ text, value = .ok text → BlockMark.ofLine text = mark) :
    (Outline.emitLine value).Yields (· = [mark]) :=
  need fun text computed => emit (marked text computed)

/-- A line that is introduced by a keyword has the mark of the keyword's first word. -/
theorem keyword {game : Game} {keyword : String} {expr : Expr} (word : String) (rest : List Char)
    (solid : Text.isSolid word = true)
    (split : keyword.toList ++ [' '] = word.toList ++ ' ' :: rest) :
    (Outline.emitLine (keywordLine game keyword expr)).Yields (· = [BlockMark.ofWord word]) :=
  emitLine fun _ => BlockMark.ofLine_keywordLine rest solid split

theorem seq (firsts : first.Yields form) (seconds : second.Yields other) :
    (Outline.seq first second).Yields (BlockMark.Then form other) := by
  intro texts succeeds
  rw [Outline.texts] at succeeds
  cases front : first.texts with
  | error error =>
      rw [front] at succeeds
      cases succeeds
  | ok fronts =>
      cases back : second.texts with
      | error error =>
          rw [front, back] at succeeds
          cases succeeds
      | ok backs =>
          rw [front, back] at succeeds
          cases succeeds
          exact ⟨_, _, firsts _ front, seconds _ back, List.map_append.symm⟩

theorem items (firsts : first.Yields Nested) (seconds : second.Yields Nested) :
    (Outline.seq first second).Yields Nested :=
  (firsts.seq seconds).mono fun ⟨_, _, fronts, backs, joined⟩ => joined ▸ fronts.append backs

theorem item (plain : first.Yields (· = [.plain])) : first.Yields Nested :=
  plain.mono fun only => only ▸ .single .plain

/-! The rules of the grammar, for outlines. Indentation plays no part: the texts are the same. -/

theorem choice {head body chain last : Outline} (heads : head.Yields (· = [.openIf]))
    (bodies : body.Yields Nested) (chains : chain.Yields NestedElseIfs)
    (lasts : last.Yields NestedElse) :
    (Outline.seq head (.seq (.indented body) (.seq chain (.seq last (.emit "EndIf"))))).Yields
      Nested := by
  have ends : (Outline.emit "EndIf").Yields (· = [.endIf]) :=
    emit (BlockMark.ofLine_word rfl)
  have parts := heads.seq (bodies.seq (chains.seq (lasts.seq ends)))
  intro texts succeeds
  obtain ⟨_, _, opened, ⟨_, _, nested, ⟨_, _, chained, ⟨_, _, closed, ended, rfl⟩, rfl⟩, rfl⟩,
    joined⟩ := parts texts succeeds
  rw [← joined, opened, ended]
  exact .single (.choice nested chained closed)

theorem loop {head body : Outline} (heads : head.Yields (· = [.openWhile]))
    (bodies : body.Yields Nested) :
    (Outline.seq head (.seq body (.emit "EndWhile"))).Yields Nested := by
  have ends : (Outline.emit "EndWhile").Yields (· = [.endWhile]) :=
    emit (BlockMark.ofLine_word rfl)
  have parts := heads.seq (bodies.seq ends)
  intro texts succeeds
  obtain ⟨_, _, opened, ⟨_, _, nested, ended, rfl⟩, joined⟩ := parts texts succeeds
  rw [← joined, opened, ended]
  exact .single (.loop nested)

theorem elseIf {head body rest : Outline} (heads : head.Yields (· = [.elseIf]))
    (bodies : body.Yields Nested) (others : rest.Yields NestedElseIfs) :
    (Outline.seq head (.seq (.indented body) rest)).Yields NestedElseIfs := by
  have parts := heads.seq (bodies.seq others)
  intro texts succeeds
  obtain ⟨_, _, opened, ⟨_, _, nested, chained, rfl⟩, joined⟩ := parts texts succeeds
  rw [← joined, opened, List.singleton_append]
  exact .cons nested chained

theorem orElse {body : Outline} (bodies : body.Yields Nested) :
    (Outline.seq (.emit "Else") (.indented body)).Yields NestedElse := by
  have heads : (Outline.emit "Else").Yields (· = [.orElse]) :=
    emit (BlockMark.ofLine_word rfl)
  intro texts succeeds
  obtain ⟨_, _, opened, nested, joined⟩ := (heads.seq bodies) texts succeeds
  rw [← joined, opened, List.singleton_append]
  exact .some nested

end Outline.Yields

/-! ## Statements -/

section Enabled

variable (table : DirectiveTable)

mutual

/-- The statements inside of a statement, at every depth, without disabled blocks. -/
def Stmt.enabledWithin : Stmt → List Stmt
  | .expr _ => []
  | .ret _ => []
  | .variable _ => []
  | .inferred _ => []
  | .ifElse _ body elseIfs elseBody =>
      Stmt.enabledList body ++ (Stmt.enabledBranches elseIfs ++ Stmt.enabledOption elseBody)
  | .while _ body => Stmt.enabledList body
  | .range _ _ body => Stmt.enabledList body
  | .switch _ cases default => Stmt.enabledBranches cases ++ Stmt.enabledOption default
  | .conditional name body => table.keep name (Stmt.enabledList body)

/-- The statements of a list and those inside of them, without disabled blocks. -/
def Stmt.enabledList : List Stmt → List Stmt
  | [] => []
  | stmt :: rest => stmt :: (stmt.enabledWithin ++ Stmt.enabledList rest)

def Stmt.enabledOption : Option (List Stmt) → List Stmt
  | none => []
  | some body => Stmt.enabledList body

def Stmt.enabledBranches : List Branch → List Stmt
  | [] => []
  | .mk _ body :: rest => Stmt.enabledList body ++ Stmt.enabledBranches rest

end

end Enabled

/-- Expressions and declarations: the statements whose lines start with text of their own. -/
def Stmt.isSimple : Stmt → Bool
  | .expr _ => true
  | .variable _ => true
  | .inferred _ => true
  | _ => false

section Grammar

variable (game : Game) (table : DirectiveTable)

/-- What is asked of a statement: its own text does not pass for the start or the end of a block,
and neither does its index variable. -/
structure Stmt.Tame (stmt : Stmt) : Prop where
  plain : stmt.isSimple = true → (stmt.outline game table).Yields (∀ mark ∈ ·, mark = .plain)
  range : ∀ {element array body}, stmt = .range element array body → array.isWellFormed = true

variable {game table}

open Outline (Yields)

theorem Stmt.Tame.yields_nested {stmt : Stmt} (tame : stmt.Tame game table)
    (simple : stmt.isSimple = true) : (stmt.outline game table).Yields Nested :=
  (tame.plain simple).mono Nested.of_plain

/-- A plain line, and then a loop with a plain line at both ends of its body. -/
theorem Stmt.yields_range {element array : Identifier} {body : List Stmt}
    (formed : array.isWellFormed = true)
    (bodies : (Stmt.outlineList game table body).Yields Nested) :
    ((Stmt.range element array body).outline game table).Yields Nested := by
  have int : Text.isSolid "Int" = true := rfl
  have start : BlockMark.ofLine ("Int " ++ indexName array ++ " = 0") = .plain :=
    BlockMark.ofLine_of_space ((indexName array).toList ++ " = 0".toList) int (by simp)
  have head : BlockMark.ofLine ("While " ++ indexName array ++ " < " ++ array.normalized ++
      ".Length") = .openWhile :=
    BlockMark.ofLine_of_space ((indexName array).toList ++ " < ".toList ++
      array.normalized.toList ++ ".Length".toList) (rfl : Text.isSolid "While" = true) (by simp)
  have fetch : BlockMark.ofLine ("Int " ++ element.normalized ++ " = " ++ array.normalized ++ "[" ++
      indexName array ++ "]") = .plain :=
    BlockMark.ofLine_of_space (element.normalized.toList ++ " = ".toList ++
      array.normalized.toList ++ "[".toList ++ (indexName array).toList ++ "]".toList) int (by simp)
  have next : BlockMark.ofLine (indexName array ++ " += 1") = .plain :=
    BlockMark.ofLine_index formed
  have inner := (Yields.emit fetch).item.items (bodies.items (Yields.emit next).item)
  exact (Yields.emit start).item.items ((Yields.emit head).loop inner)

theorem Outline.Yields.whenEnabled {name : String} {body : List Stmt}
    (tame : ∀ stmt ∈ table.keep name (Stmt.enabledList table body), stmt.Tame game table)
    (bodies : (∀ stmt ∈ Stmt.enabledList table body, stmt.Tame game table) →
      (Stmt.outlineList game table body).Yields Nested) :
    (Outline.whenEnabled table name (Stmt.outlineList game table body)).Yields Nested := by
  unfold Outline.whenEnabled
  unfold DirectiveTable.keep at tame
  split
  · rename_i enabled
    rw [if_pos enabled] at tame
    exact bodies tame
  · exact .skip .nil

-- One case for each constructor. A switch without cases has no block of its own, so its default
-- counts as statements in the place of the switch.
mutual

theorem Stmt.yields_nested : ∀ stmt : Stmt, stmt.Tame game table →
    (∀ inner ∈ stmt.enabledWithin table, inner.Tame game table) →
    (stmt.outline game table).Yields Nested
  | .expr _, tame, _ => tame.yields_nested rfl
  | .ret none, _, _ => (Yields.emit (BlockMark.ofLine_word rfl)).item
  | .ret (some value), _, _ =>
      (Yields.keyword "Return" [] rfl rfl).item
  | .variable _, tame, _ => tame.yields_nested rfl
  | .inferred _, tame, _ => tame.yields_nested rfl
  | .ifElse condition body elseIfs elseBody, _, within => by
      rw [Stmt.enabledWithin, List.forall_mem_append, List.forall_mem_append] at within
      have head : (Outline.emitLine (keywordLine game "If" condition)).Yields (· = [.openIf]) :=
        .keyword "If" [] rfl rfl
      exact head.choice (Stmt.yields_nestedList body within.1)
        (Stmt.yields_elseIfs elseIfs within.2.1) (Stmt.yields_else elseBody within.2.2)
  | .while condition body, _, within => by
      have head : (Outline.emitLine (keywordLine game "While" condition)).Yields
          (· = [.openWhile]) :=
        .keyword "While" [] rfl rfl
      exact head.loop (Stmt.yields_nestedList body within)
  | .range element array body, tame, within =>
      Stmt.yields_range (tame.range rfl) (Stmt.yields_nestedList body within)
  | .switch subject [] default, _, within => .need fun _ _ => Stmt.yields_option default within
  | .switch subject (.mk guard body :: cases) default, _, within => by
      rw [Stmt.enabledWithin, Stmt.enabledBranches, List.forall_mem_append,
        List.forall_mem_append] at within
      refine .need fun text _ => ?_
      have head : (Outline.emitLine (keywordLine game ("If " ++ text ++ " ==") guard)).Yields
          (· = [.openIf]) :=
        .keyword "If" (text.toList ++ [' ', '=', '=', ' ']) rfl (by simp)
      exact head.choice (Stmt.yields_nestedList body within.1.1)
        (Stmt.yields_cases text cases within.1.2) (Stmt.yields_else default within.2)
  | .conditional name body, _, within => .whenEnabled within (Stmt.yields_nestedList body)

theorem Stmt.yields_nestedList : ∀ body : List Stmt,
    (∀ stmt ∈ Stmt.enabledList table body, stmt.Tame game table) →
    (Stmt.outlineList game table body).Yields Nested
  | [], _ => .skip .nil
  | stmt :: rest, tame => by
      rw [Stmt.enabledList, List.forall_mem_cons, List.forall_mem_append] at tame
      exact (Stmt.yields_nested stmt tame.1 tame.2.1).items (Stmt.yields_nestedList rest tame.2.2)

theorem Stmt.yields_option : ∀ body : Option (List Stmt),
    (∀ stmt ∈ Stmt.enabledOption table body, stmt.Tame game table) →
    (Stmt.outlineOption game table body).Yields Nested
  | none, _ => .skip .nil
  | some body, tame => Stmt.yields_nestedList body tame

theorem Stmt.yields_else : ∀ body : Option (List Stmt),
    (∀ stmt ∈ Stmt.enabledOption table body, stmt.Tame game table) →
    (Stmt.outlineElse game table body).Yields NestedElse
  | none, _ => .skip .none
  | some body, tame => (Stmt.yields_nestedList body tame).orElse

theorem Stmt.yields_elseIfs : ∀ branches : List Branch,
    (∀ stmt ∈ Stmt.enabledBranches table branches, stmt.Tame game table) →
    (Stmt.outlineElseIfs game table branches).Yields NestedElseIfs
  | [], _ => .skip .nil
  | .mk guard body :: rest, tame => by
      rw [Stmt.enabledBranches, List.forall_mem_append] at tame
      have head : (Outline.emitLine (keywordLine game "ElseIf" guard)).Yields (· = [.elseIf]) :=
        .keyword "ElseIf" [] rfl rfl
      exact head.elseIf (Stmt.yields_nestedList body tame.1) (Stmt.yields_elseIfs rest tame.2)

theorem Stmt.yields_cases (subject : String) : ∀ branches : List Branch,
    (∀ stmt ∈ Stmt.enabledBranches table branches, stmt.Tame game table) →
    (Stmt.outlineCases game table subject branches).Yields NestedElseIfs
  | [], _ => .skip .nil
  | .mk guard body :: rest, tame => by
      rw [Stmt.enabledBranches, List.forall_mem_append] at tame
      have head : (Outline.emitLine (keywordLine game ("ElseIf " ++ subject ++ " ==") guard)).Yields
          (· = [.elseIf]) :=
        .keyword "ElseIf" (subject.toList ++ [' ', '=', '=', ' ']) rfl (by simp)
      exact head.elseIf (Stmt.yields_nestedList body tame.1)
        (Stmt.yields_cases subject rest tame.2)

end

end Grammar

open Renderer in
/-- What a statement writes on the blank page has the marks of its outline. -/
theorem Stmt.yields_plain {target : Target} {stmt : Stmt}
    (plain : ∀ alone, outcome (stmt.render target) Page.blank = .ok alone →
      ∀ line ∈ alone.lines, BlockMark.ofLine line = .plain) :
    (stmt.outline target.game target.directives).Yields (∀ mark ∈ ·, mark = .plain) := by
  intro texts succeeds mark among
  obtain ⟨error, -, failed⟩ | ⟨lines, wrote, same⟩ :=
    (Stmt.follows_render target stmt).texts Page.blank
  · cases failed.symm.trans succeeds
  · have trimmed := Except.ok.inj (same.symm.trans succeeds)
    rw [← trimmed, List.map_map, List.mem_map] at among
    obtain ⟨line, member, rfl⟩ := among
    rw [Function.comp_apply, BlockMark.ofLine_trim]
    refine plain _ wrote line ?_
    rw [Page.lines_writeLines_blank]
    exact List.mem_toArray.mpr member

open Renderer in
/-- Rendered statements are well nested, in every layout of loops and on every page. -/
theorem Stmt.rendered_blocks_nested (target : Target) (body : List Stmt) (page written : Page)
    (rendered : outcome (Stmt.renderList target body) page = .ok written)
    (ranges : ∀ element array inner,
      Stmt.range element array inner ∈ Stmt.enabledList target.directives body →
        array.isWellFormed = true)
    (plain : ∀ stmt ∈ Stmt.enabledList target.directives body, stmt.isSimple = true →
      ∀ alone, outcome (stmt.render target) Page.blank = .ok alone →
        ∀ line ∈ alone.lines, BlockMark.ofLine line = .plain) :
    ∃ emitted, written.lines = page.lines ++ emitted ∧
      Nested (emitted.toList.map BlockMark.ofLine) := by
  have tame : ∀ stmt ∈ Stmt.enabledList target.directives body,
      stmt.Tame target.game target.directives := by
    intro stmt enabled
    refine ⟨fun simple => Stmt.yields_plain (plain stmt enabled simple), ?_⟩
    rintro element array inner rfl
    exact ranges element array inner enabled
  obtain ⟨error, failed, -⟩ | ⟨lines, wrote, texts⟩ :=
    (Stmt.follows_renderList target body).texts page
  · cases failed.symm.trans rendered
  · cases wrote.symm.trans rendered
    refine ⟨_, rfl, ?_⟩
    have nested := Stmt.yields_nestedList body tame _ texts
    have marks : BlockMark.ofLine ∘ Page.line page.indent = BlockMark.ofLine ∘ Text.trim := by
      funext line
      rw [Function.comp_apply, Function.comp_apply, BlockMark.ofLine_line, BlockMark.ofLine_trim]
    rw [List.map_map, ← marks] at nested
    rwa [List.map_map]

/-- A choice with all its parts, and a switch without cases, in a loop. -/
def Stmt.watch : List Stmt :=
  [.while (.name ⟨[⟨"active"⟩]⟩)
    [.ifElse (.name ⟨[⟨"done"⟩]⟩) [.ret none]
      [.mk (.name ⟨[⟨"late"⟩]⟩) [.expr (.name ⟨[⟨"hurry"⟩]⟩)]]
      (some [.switch (.name ⟨[⟨"mode"⟩]⟩) [] (some [.expr (.name ⟨[⟨"wait"⟩]⟩)])])]]

/-- The loop in another loop, before a disabled block that would end a choice. -/
def Stmt.rounds : List Stmt :=
  [.range ⟨"post"⟩ ⟨"posts"⟩ Stmt.watch, .conditional "DEBUG" [.expr (.name ⟨[⟨"EndIf"⟩]⟩)]]

/-- What becomes of them in an event. -/
def Page.rounds : Page where
  indent := 1
  lines := #["Event OnInit()",
    "    Int postsIndex = 0",
    "    While postsIndex < posts.Length",
    "        Int post = posts[postsIndex]",
    "        While active",
    "            If done",
    "            Return",
    "            ElseIf late",
    "            hurry",
    "            Else",
    "            wait",
    "            EndIf",
    "        EndWhile",
    "        postsIndex += 1",
    "    EndWhile"]

open Renderer in
theorem Stmt.rounds_nested :
    outcome (Stmt.renderList ⟨.skyrimSE, .empty, .flat⟩ Stmt.rounds) ⟨1, #["Event OnInit()"]⟩ =
        .ok Page.rounds ∧
      ∃ emitted, Page.rounds.lines = #["Event OnInit()"] ++ emitted ∧
        Nested (emitted.toList.map BlockMark.ofLine) := by
  have rendered : outcome (Stmt.renderList ⟨.skyrimSE, .empty, .flat⟩ Stmt.rounds)
      ⟨1, #["Event OnInit()"]⟩ = .ok Page.rounds := rfl
  have simples : (Stmt.enabledList .empty Stmt.rounds).filter Stmt.isSimple =
      [.expr (.name ⟨[⟨"hurry"⟩]⟩), .expr (.name ⟨[⟨"wait"⟩]⟩)] := rfl
  refine ⟨rendered, Stmt.rendered_blocks_nested _ _ _ _ rendered ?ranges ?plain⟩
  case ranges =>
    intro element array inner member
    have only : element = ⟨"post"⟩ ∧ array = ⟨"posts"⟩ ∧ inner = Stmt.watch := by
      simpa [Stmt.rounds, Stmt.watch, Stmt.enabledList, Stmt.enabledWithin,
        Stmt.enabledBranches, Stmt.enabledOption, DirectiveTable.keep] using member
    rw [only.2.1]
    decide
  case plain =>
    intro stmt member simple alone wrote
    have among := List.mem_filter.mpr ⟨member, simple⟩
    rw [simples, List.mem_pair] at among
    rcases among with rfl | rfl
    · cases wrote
      decide
    · cases wrote
      decide

end PapyrusWriter
