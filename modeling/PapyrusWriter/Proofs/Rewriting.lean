import PapyrusWriter.Proofs.Flattening
/-!
# Rewriting statements at every depth

A rule says which statements take the place of a statement. `Script.rewrite` applies it everywhere
in a script, to what is inside a statement before the statement itself; all else stays as it is.

What a rule keeps is told by a `LineView`: how much of the lines of an outline is looked at. The
lines themselves are one view, their texts without white space another. If what a rule puts in the
place of a single statement always looks like the statement, then the rewritten script looks like
the script (`Script.seenBy_rewrite`); nothing else has to be known about the rule.
-/

namespace PapyrusWriter

set_option autoImplicit false

/-! ## Rewritten trees -/

section Rewrite

variable (rule : Stmt → List Stmt)

mutual

/-- The statements that take the place of a statement, where the rule has been applied inside of it
before. -/
def Stmt.rewrite : Stmt → List Stmt
  | .expr inner => rule (.expr inner)
  | .ret value => rule (.ret value)
  | .variable decl => rule (.variable decl)
  | .inferred decl => rule (.inferred decl)
  | .ifElse condition body elseIfs elseBody =>
      rule (.ifElse condition (Stmt.rewriteList body) (Stmt.rewriteBranches elseIfs)
        (Stmt.rewriteOption elseBody))
  | .while condition body => rule (.while condition (Stmt.rewriteList body))
  | .range element array body => rule (.range element array (Stmt.rewriteList body))
  | .switch subject cases default =>
      rule (.switch subject (Stmt.rewriteBranches cases) (Stmt.rewriteOption default))
  | .conditional name body => rule (.conditional name (Stmt.rewriteList body))

def Stmt.rewriteList : List Stmt → List Stmt
  | [] => []
  | stmt :: rest => stmt.rewrite ++ Stmt.rewriteList rest

def Stmt.rewriteOption : Option (List Stmt) → Option (List Stmt)
  | none => none
  | some body => some (Stmt.rewriteList body)

def Stmt.rewriteBranches : List Branch → List Branch
  | [] => []
  | .mk guard body :: rest => .mk guard (Stmt.rewriteList body) :: Stmt.rewriteBranches rest

end

def FullProperty.rewrite (property : FullProperty) : FullProperty :=
  { property with
    getter := Stmt.rewriteOption rule property.getter
    setter := Stmt.rewriteOption rule property.setter }

def FunctionDecl.rewrite (decl : FunctionDecl) : FunctionDecl :=
  { decl with body := Stmt.rewriteList rule decl.body }

def EventDecl.rewrite (decl : EventDecl) : EventDecl :=
  { decl with body := Stmt.rewriteList rule decl.body }

mutual

/-- The member with its statements rewritten. -/
def Member.rewrite : Member → Member
  | .importScript path => .importScript path
  | .variable decl => .variable decl
  | .inferred decl => .inferred decl
  | .autoProperty property => .autoProperty property
  | .fullProperty property => .fullProperty (property.rewrite rule)
  | .function decl => .function (decl.rewrite rule)
  | .event decl => .event (decl.rewrite rule)
  | .state name auto members => .state name auto (Member.rewriteList members)
  | .struct decl => .struct decl
  | .group name flags members => .group name flags (Member.rewriteList members)
  | .conditional name body => .conditional name (Member.rewriteList body)

def Member.rewriteList : List Member → List Member
  | [] => []
  | member :: rest => member.rewrite :: Member.rewriteList rest

end

/-- The script with all its statements rewritten. -/
def Script.rewrite (script : Script) : Script :=
  { script with members := Member.rewriteList rule script.members }

end Rewrite

/-! ## Views of an outline -/

/-- What is looked at of the lines of an outline: what is seen of a line by itself, and what becomes
of that inside a body and inside the body of a loop. -/
structure LineView where
  written : String → String
  below : String → String
  looped : String → String

namespace LineView

/-- Lines as they are. -/
def plain (loops : LoopLayout) : LineView := ⟨id, Page.line 1, Outline.loopLine loops⟩

/-- Lines without the white space around them. -/
def trimmed : LineView := ⟨Text.trim, id, id⟩

end LineView

namespace Outline

/-- What a view sees of an outline, or the error of the outline. -/
def seenBy (view : LineView) : Outline → Except TranspileError (List String)
  | .skip => pure []
  | .emit text => pure [view.written text]
  | .need value next => value >>= fun text => (next text).seenBy view
  | .seq first second =>
      first.seenBy view >>= fun front => second.seenBy view >>= fun back => pure (front ++ back)
  | .indented body => body.seenBy view >>= fun inner => pure (inner.map view.below)
  | .loop body => body.seenBy view >>= fun inner => pure (inner.map view.looped)

theorem seenBy_plain (loops : LoopLayout) (outline : Outline) :
    outline.seenBy (.plain loops) = outline.lines loops := by
  induction outline with
  | skip => rfl
  | emit text => rfl
  | need value next ih => exact congrArg (value >>= ·) (funext ih)
  | seq first second firstIh secondIh => rw [seenBy, lines, firstIh, secondIh]
  | indented body ih => rw [seenBy, lines, ih]; rfl
  | loop body ih => rw [seenBy, lines, ih]; rfl

theorem seenBy_trimmed (outline : Outline) : outline.seenBy .trimmed = outline.texts := by
  induction outline with
  | skip => rfl
  | emit text => rfl
  | need value next ih => exact congrArg (value >>= ·) (funext ih)
  | seq first second firstIh secondIh => rw [seenBy, texts, firstIh, secondIh]
  | indented body ih =>
      rw [seenBy, texts, ih]
      simp [LineView.trimmed]
  | loop body ih =>
      rw [seenBy, texts, ih]
      simp [LineView.trimmed]

variable (view : LineView)

theorem seenBy_seq_skip (outline : Outline) :
    (seq outline skip).seenBy view = outline.seenBy view := by
  simp [seenBy]

theorem seenBy_skip_seq (outline : Outline) :
    (seq skip outline).seenBy view = outline.seenBy view := by
  simp [seenBy]

theorem seenBy_seq_assoc (first second third : Outline) :
    (seq (seq first second) third).seenBy view =
      (seq first (seq second third)).seenBy view := by
  simp only [seenBy, bind_assoc, pure_bind, List.append_assoc]

variable {view} {first first' second second' body body' : Outline}

theorem seenBy_seq_congr (firsts : first.seenBy view = first'.seenBy view)
    (seconds : second.seenBy view = second'.seenBy view) :
    (seq first second).seenBy view = (seq first' second').seenBy view := by
  rw [seenBy, seenBy, firsts, seconds]

theorem seenBy_indented_congr (bodies : body.seenBy view = body'.seenBy view) :
    (indented body).seenBy view = (indented body').seenBy view := by
  rw [seenBy, seenBy, bodies]

theorem seenBy_loop_congr (bodies : body.seenBy view = body'.seenBy view) :
    (loop body).seenBy view = (loop body').seenBy view := by
  rw [seenBy, seenBy, bodies]

theorem seenBy_need_congr {value : Except TranspileError String} {next next' : String → Outline}
    (rest : ∀ text, (next text).seenBy view = (next' text).seenBy view) :
    (need value next).seenBy view = (need value next').seenBy view :=
  congrArg (value >>= ·) (funext rest)

theorem seenBy_whenEnabled_congr (table : DirectiveTable) (name : String)
    (bodies : body.seenBy view = body'.seenBy view) :
    (whenEnabled table name body).seenBy view = (whenEnabled table name body').seenBy view := by
  unfold whenEnabled
  split
  · exact bodies
  · rfl

end Outline

/-! ## Rules that keep a view -/

section Keeping

variable (game : Game) (table : DirectiveTable) (view : LineView)

theorem Stmt.seenBy_outlineList_singleton (stmt : Stmt) :
    (Stmt.outlineList game table [stmt]).seenBy view = (stmt.outline game table).seenBy view :=
  Outline.seenBy_seq_skip view _

theorem Stmt.seenBy_outlineList_append (front back : List Stmt) :
    (Stmt.outlineList game table (front ++ back)).seenBy view =
      (Outline.seq (Stmt.outlineList game table front)
        (Stmt.outlineList game table back)).seenBy view := by
  induction front with
  | nil => rw [List.nil_append, Stmt.outlineList, Outline.seenBy_skip_seq]
  | cons stmt rest ih =>
      rw [List.cons_append, Stmt.outlineList, Stmt.outlineList, Outline.seenBy_seq_assoc]
      exact Outline.seenBy_seq_congr rfl ih

/-- What the rule puts in the place of a statement looks like the statement. -/
def LineView.KeptBy (rule : Stmt → List Stmt) : Prop :=
  ∀ stmt : Stmt,
    (Stmt.outlineList game table (rule stmt)).seenBy view = (stmt.outline game table).seenBy view

variable {game table view} {rule : Stmt → List Stmt}

open Outline (seenBy_seq_congr seenBy_indented_congr seenBy_loop_congr seenBy_need_congr
  seenBy_whenEnabled_congr)

mutual

theorem Stmt.seenBy_rewrite (kept : view.KeptBy game table rule) : ∀ stmt : Stmt,
    (Stmt.outlineList game table (stmt.rewrite rule)).seenBy view =
      (stmt.outline game table).seenBy view
  | .expr inner => kept (.expr inner)
  | .ret value => kept (.ret value)
  | .variable decl => kept (.variable decl)
  | .inferred decl => kept (.inferred decl)
  | .ifElse condition body elseIfs elseBody => by
      rw [Stmt.rewrite, kept, Stmt.outline, Stmt.outline]
      refine seenBy_seq_congr rfl ?_
      refine seenBy_seq_congr (seenBy_indented_congr (Stmt.seenBy_rewriteList kept body)) ?_
      refine seenBy_seq_congr (Stmt.seenBy_rewriteElseIfs kept elseIfs) ?_
      exact seenBy_seq_congr (Stmt.seenBy_rewriteElse kept elseBody) rfl
  | .while condition body => by
      rw [Stmt.rewrite, kept, Stmt.outline, Stmt.outline]
      refine seenBy_seq_congr rfl (seenBy_seq_congr ?_ rfl)
      exact seenBy_loop_congr (Stmt.seenBy_rewriteList kept body)
  | .range element array body => by
      rw [Stmt.rewrite, kept, Stmt.outline, Stmt.outline]
      refine seenBy_seq_congr rfl (seenBy_seq_congr rfl (seenBy_seq_congr ?_ rfl))
      refine seenBy_indented_congr ?_
      exact seenBy_seq_congr rfl (seenBy_seq_congr (Stmt.seenBy_rewriteList kept body) rfl)
  | .switch subject [] default => by
      rw [Stmt.rewrite, kept, Stmt.rewriteBranches, Stmt.outline, Stmt.outline]
      exact seenBy_need_congr fun _ => Stmt.seenBy_rewriteOption kept default
  | .switch subject (.mk guard body :: cases) default => by
      rw [Stmt.rewrite, kept, Stmt.rewriteBranches, Stmt.outline, Stmt.outline]
      refine seenBy_need_congr fun text => seenBy_seq_congr rfl ?_
      refine seenBy_seq_congr (seenBy_indented_congr (Stmt.seenBy_rewriteList kept body)) ?_
      refine seenBy_seq_congr (Stmt.seenBy_rewriteCases kept text cases) ?_
      exact seenBy_seq_congr (Stmt.seenBy_rewriteElse kept default) rfl
  | .conditional name body => by
      rw [Stmt.rewrite, kept, Stmt.outline, Stmt.outline]
      exact seenBy_whenEnabled_congr table name (Stmt.seenBy_rewriteList kept body)

theorem Stmt.seenBy_rewriteList (kept : view.KeptBy game table rule) : ∀ body : List Stmt,
    (Stmt.outlineList game table (Stmt.rewriteList rule body)).seenBy view =
      (Stmt.outlineList game table body).seenBy view
  | [] => rfl
  | stmt :: rest => by
      rw [Stmt.rewriteList, Stmt.seenBy_outlineList_append, Stmt.outlineList]
      exact seenBy_seq_congr (Stmt.seenBy_rewrite kept stmt) (Stmt.seenBy_rewriteList kept rest)

theorem Stmt.seenBy_rewriteOption (kept : view.KeptBy game table rule) :
    ∀ body : Option (List Stmt),
      (Stmt.outlineOption game table (Stmt.rewriteOption rule body)).seenBy view =
        (Stmt.outlineOption game table body).seenBy view
  | none => rfl
  | some body => Stmt.seenBy_rewriteList kept body

theorem Stmt.seenBy_rewriteElse (kept : view.KeptBy game table rule) :
    ∀ body : Option (List Stmt),
      (Stmt.outlineElse game table (Stmt.rewriteOption rule body)).seenBy view =
        (Stmt.outlineElse game table body).seenBy view
  | none => rfl
  | some body => seenBy_seq_congr rfl (seenBy_indented_congr (Stmt.seenBy_rewriteList kept body))

theorem Stmt.seenBy_rewriteElseIfs (kept : view.KeptBy game table rule) :
    ∀ branches : List Branch,
      (Stmt.outlineElseIfs game table (Stmt.rewriteBranches rule branches)).seenBy view =
        (Stmt.outlineElseIfs game table branches).seenBy view
  | [] => rfl
  | .mk guard body :: rest => by
      rw [Stmt.rewriteBranches, Stmt.outlineElseIfs, Stmt.outlineElseIfs]
      refine seenBy_seq_congr rfl ?_
      refine seenBy_seq_congr (seenBy_indented_congr (Stmt.seenBy_rewriteList kept body)) ?_
      exact Stmt.seenBy_rewriteElseIfs kept rest

theorem Stmt.seenBy_rewriteCases (kept : view.KeptBy game table rule) (subject : String) :
    ∀ branches : List Branch,
      (Stmt.outlineCases game table subject (Stmt.rewriteBranches rule branches)).seenBy view =
        (Stmt.outlineCases game table subject branches).seenBy view
  | [] => rfl
  | .mk guard body :: rest => by
      rw [Stmt.rewriteBranches, Stmt.outlineCases, Stmt.outlineCases]
      refine seenBy_seq_congr rfl ?_
      refine seenBy_seq_congr (seenBy_indented_congr (Stmt.seenBy_rewriteList kept body)) ?_
      exact Stmt.seenBy_rewriteCases kept subject rest

end

theorem Outline.seenBy_accessor_rewrite (kept : view.KeptBy game table rule) (header : String)
    (body : Option (List Stmt)) :
    (accessor game table header (Stmt.rewriteOption rule body)).seenBy view =
      (accessor game table header body).seenBy view := by
  cases body with
  | none => rfl
  | some body =>
      refine seenBy_seq_congr rfl (seenBy_seq_congr (seenBy_indented_congr ?_) rfl)
      exact Stmt.seenBy_rewriteList kept body

/-- Rewriting neither adds nor removes an accessor. -/
theorem FullProperty.check_rewrite (rule : Stmt → List Stmt) (property : FullProperty) :
    (property.rewrite rule).check = property.check := by
  obtain ⟨type, name, getter, setter⟩ := property
  cases getter <;> cases setter <;> rfl

theorem FullProperty.seenBy_rewrite (kept : view.KeptBy game table rule)
    (property : FullProperty) :
    ((property.rewrite rule).outline game table).seenBy view =
      (property.outline game table).seenBy view := by
  unfold FullProperty.outline
  rw [FullProperty.check_rewrite]
  refine seenBy_seq_congr rfl (seenBy_seq_congr rfl ?_)
  refine seenBy_seq_congr (Outline.seenBy_accessor_rewrite kept _ property.getter) ?_
  exact seenBy_seq_congr (Outline.seenBy_accessor_rewrite kept _ property.setter) rfl

theorem FunctionDecl.seenBy_rewrite (kept : view.KeptBy game table rule) (decl : FunctionDecl) :
    ((decl.rewrite rule).outline game table).seenBy view =
      (decl.outline game table).seenBy view := by
  refine seenBy_seq_congr rfl (seenBy_seq_congr (seenBy_indented_congr ?_) rfl)
  exact Stmt.seenBy_rewriteList kept decl.body

theorem EventDecl.seenBy_rewrite (kept : view.KeptBy game table rule) (decl : EventDecl) :
    ((decl.rewrite rule).outline game table).seenBy view =
      (decl.outline game table).seenBy view := by
  refine seenBy_seq_congr rfl (seenBy_seq_congr (seenBy_indented_congr ?_) rfl)
  exact Stmt.seenBy_rewriteList kept decl.body

mutual

theorem Member.seenBy_rewrite (kept : view.KeptBy game table rule) : ∀ member : Member,
    ((member.rewrite rule).outline game table).seenBy view =
      (member.outline game table).seenBy view
  | .importScript _ => rfl
  | .variable _ => rfl
  | .inferred _ => rfl
  | .autoProperty _ => rfl
  | .fullProperty property => property.seenBy_rewrite kept
  | .function decl => decl.seenBy_rewrite kept
  | .event decl => decl.seenBy_rewrite kept
  | .state name auto members => by
      rw [Member.rewrite, Member.outline, Member.outline]
      refine seenBy_seq_congr rfl (seenBy_seq_congr ?_ rfl)
      exact seenBy_indented_congr (Member.seenBy_rewriteList kept members)
  | .struct _ => rfl
  | .group name flags members => by
      rw [Member.rewrite, Member.outline, Member.outline]
      refine seenBy_seq_congr rfl (seenBy_seq_congr rfl (seenBy_seq_congr ?_ rfl))
      exact seenBy_indented_congr (Member.seenBy_rewriteList kept members)
  | .conditional name body => by
      rw [Member.rewrite, Member.outline, Member.outline]
      exact seenBy_whenEnabled_congr table name (Member.seenBy_rewriteList kept body)

theorem Member.seenBy_rewriteList (kept : view.KeptBy game table rule) :
    ∀ members : List Member,
      (Member.outlineList game table (Member.rewriteList rule members)).seenBy view =
        (Member.outlineList game table members).seenBy view
  | [] => rfl
  | member :: rest =>
      seenBy_seq_congr (Member.seenBy_rewrite kept member) (Member.seenBy_rewriteList kept rest)

end

/-- A rule that keeps a view of every statement keeps it of every script. -/
theorem Script.seenBy_rewrite (kept : view.KeptBy game table rule) (script : Script) :
    ((script.rewrite rule).outline game table).seenBy view =
      (script.outline game table).seenBy view :=
  seenBy_seq_congr rfl (seenBy_seq_congr rfl (Member.seenBy_rewriteList kept script.members))

/-- A rule that keeps the lines of every statement changes nothing in what is generated. -/
theorem Script.generate_rewrite (kept : (LineView.plain .flat).KeptBy game table rule)
    (script : Script) :
    ((script.rewrite rule).generate game table).result = (script.generate game table).result := by
  have lines := script.seenBy_rewrite kept
  rw [Outline.seenBy_plain, Outline.seenBy_plain] at lines
  rw [Script.generate_eq_lines, Script.generate_eq_lines, lines]

end Keeping

end PapyrusWriter
