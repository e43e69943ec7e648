import PapyrusWriter.Proofs.Outcome
/-!
# Conditional blocks are pruning

`prune` resolves the conditional blocks of a script before anything is rendered: a block whose name
the table maps to exactly `true` is replaced by its pruned body, any other block by nothing. It goes
through members and statements at every depth.

Rendering a script is rendering the pruned script, under any table at all (`generate_prune`). So
the body of a disabled block leaves no line and raises no error.
-/

namespace PapyrusWriter

set_option autoImplicit false

/-! ## Pruned trees -/

section Prune

variable (table : DirectiveTable)

/-- What stands in the place of a conditional block with this body. -/
def DirectiveTable.keep {α : Type} (name : String) (body : List α) : List α :=
  if table.get? name = some "true" then body else []

mutual

/-- The statements that stand for a statement. -/
def Stmt.prune : Stmt → List Stmt
  | .expr inner => [.expr inner]
  | .ret value => [.ret value]
  | .variable decl => [.variable decl]
  | .inferred decl => [.inferred decl]
  | .ifElse condition body elseIfs elseBody =>
      [.ifElse condition (Stmt.pruneList body) (Stmt.pruneBranches elseIfs)
        (Stmt.pruneOption elseBody)]
  | .while condition body => [.while condition (Stmt.pruneList body)]
  | .range element array body => [.range element array (Stmt.pruneList body)]
  | .switch subject cases default =>
      [.switch subject (Stmt.pruneBranches cases) (Stmt.pruneOption default)]
  | .conditional name body => table.keep name (Stmt.pruneList body)

def Stmt.pruneList : List Stmt → List Stmt
  | [] => []
  | stmt :: rest => stmt.prune ++ Stmt.pruneList rest

def Stmt.pruneOption : Option (List Stmt) → Option (List Stmt)
  | none => none
  | some body => some (Stmt.pruneList body)

/-- Branches stay, with pruned bodies. -/
def Stmt.pruneBranches : List Branch → List Branch
  | [] => []
  | .mk guard body :: rest => .mk guard (Stmt.pruneList body) :: Stmt.pruneBranches rest

end

def FullProperty.prune (property : FullProperty) : FullProperty :=
  { property with
    getter := Stmt.pruneOption table property.getter
    setter := Stmt.pruneOption table property.setter }

def FunctionDecl.prune (decl : FunctionDecl) : FunctionDecl :=
  { decl with body := Stmt.pruneList table decl.body }

def EventDecl.prune (decl : EventDecl) : EventDecl :=
  { decl with body := Stmt.pruneList table decl.body }

mutual

/-- The members that stand for a member. -/
def Member.prune : Member → List Member
  | .importScript path => [.importScript path]
  | .variable decl => [.variable decl]
  | .inferred decl => [.inferred decl]
  | .autoProperty property => [.autoProperty property]
  | .fullProperty property => [.fullProperty (property.prune table)]
  | .function decl => [.function (decl.prune table)]
  | .event decl => [.event (decl.prune table)]
  | .state name auto members => [.state name auto (Member.pruneList members)]
  | .struct decl => [.struct decl]
  | .group name flags members => [.group name flags (Member.pruneList members)]
  | .conditional name body => table.keep name (Member.pruneList body)

def Member.pruneList : List Member → List Member
  | [] => []
  | member :: rest => member.prune ++ Member.pruneList rest

end

/-- The script without conditional blocks. -/
def Script.prune (script : Script) : Script :=
  { script with members := Member.pruneList table script.members }

end Prune

/-! ## Rendering what is left -/

open Renderer

/-- The target with another directive table. -/
def Target.under (target : Target) (other : DirectiveTable) : Target :=
  { target with directives := other }

theorem Target.outcome_whenEnabled (target : Target) (name : String) (body : Renderer) :
    outcome (target.whenEnabled name body) =
      if target.directives.get? name = some "true" then outcome body else pure := by
  unfold whenEnabled DirectiveTable.isEnabled
  by_cases enabled : target.directives.get? name = some "true"
  · simp [enabled]
  · simp [enabled, outcome_report]

theorem Stmt.outcome_renderList_singleton (target : Target) (stmt : Stmt) :
    outcome (Stmt.renderList target [stmt]) = outcome (stmt.render target) := by
  rw [Stmt.renderList_eq_sequence, List.map_singleton, outcome_sequence_singleton]

theorem Stmt.outcome_renderList_append (target : Target) (first second : List Stmt) :
    outcome (Stmt.renderList target (first ++ second)) =
      outcome (Stmt.renderList target first >=> Stmt.renderList target second) := by
  simp only [Stmt.renderList_eq_sequence, List.map_append, outcome_sequence_append]

section Statements

variable (target : Target) (other : DirectiveTable)

mutual

theorem Stmt.outcome_prune : ∀ stmt : Stmt,
    outcome (Stmt.renderList (target.under other) (stmt.prune target.directives)) =
      outcome (stmt.render target)
  | .expr inner => by
      rw [Stmt.prune, Stmt.outcome_renderList_singleton]
      rfl
  | .ret value => by
      rw [Stmt.prune, Stmt.outcome_renderList_singleton]
      cases value <;> rfl
  | .variable decl => by
      rw [Stmt.prune, Stmt.outcome_renderList_singleton]
      rfl
  | .inferred decl => by
      rw [Stmt.prune, Stmt.outcome_renderList_singleton]
      rfl
  | .ifElse condition body elseIfs elseBody => by
      rw [Stmt.prune, Stmt.outcome_renderList_singleton, Stmt.render, Stmt.render]
      refine comp_congr rfl (comp_congr (indented_congr (Stmt.outcome_pruneList body)) ?_)
      refine comp_congr (Stmt.outcome_pruneElseIfs elseIfs) ?_
      exact comp_congr (Stmt.outcome_pruneElse elseBody) rfl
  | .while condition body => by
      rw [Stmt.prune, Stmt.outcome_renderList_singleton, Stmt.render, Stmt.render]
      refine comp_congr rfl (comp_congr ?_ rfl)
      exact Target.loopBody_congr rfl (Stmt.outcome_pruneList body)
  | .range element array body => by
      rw [Stmt.prune, Stmt.outcome_renderList_singleton, Stmt.render, Stmt.render]
      refine comp_congr rfl (comp_congr rfl (comp_congr (indented_congr ?_) rfl))
      exact comp_congr rfl (comp_congr (Stmt.outcome_pruneList body) rfl)
  | .switch subject [] default => by
      rw [Stmt.prune, Stmt.outcome_renderList_singleton, Stmt.pruneBranches, Stmt.render,
        Stmt.render, outcome_lift, outcome_lift, Stmt.outcome_pruneOption default]
      rfl
  | .switch subject (.mk guard body :: cases) default => by
      rw [Stmt.prune, Stmt.outcome_renderList_singleton, Stmt.pruneBranches, Stmt.render,
        Stmt.render, outcome_lift, outcome_lift]
      funext page
      refine congrArg (subject.render target.game >>= ·) (funext fun text => congrFun ?_ page)
      refine comp_congr rfl (comp_congr (indented_congr (Stmt.outcome_pruneList body)) ?_)
      refine comp_congr (Stmt.outcome_pruneCases text cases) ?_
      exact comp_congr (Stmt.outcome_pruneElse default) rfl
  | .conditional name body => by
      rw [Stmt.prune, Stmt.render, Target.outcome_whenEnabled, DirectiveTable.keep]
      split
      · exact Stmt.outcome_pruneList body
      · rw [Stmt.renderList, outcome_skip]

theorem Stmt.outcome_pruneList : ∀ body : List Stmt,
    outcome (Stmt.renderList (target.under other) (Stmt.pruneList target.directives body)) =
      outcome (Stmt.renderList target body)
  | [] => rfl
  | stmt :: rest => by
      rw [Stmt.pruneList, Stmt.outcome_renderList_append, Stmt.renderList]
      exact comp_congr (Stmt.outcome_prune stmt) (Stmt.outcome_pruneList rest)

theorem Stmt.outcome_pruneOption : ∀ body : Option (List Stmt),
    outcome (Stmt.renderOption (target.under other) (Stmt.pruneOption target.directives body)) =
      outcome (Stmt.renderOption target body)
  | none => rfl
  | some body => Stmt.outcome_pruneList body

theorem Stmt.outcome_pruneElse : ∀ body : Option (List Stmt),
    outcome (Stmt.renderElse (target.under other) (Stmt.pruneOption target.directives body)) =
      outcome (Stmt.renderElse target body)
  | none => rfl
  | some body => comp_congr rfl (indented_congr (Stmt.outcome_pruneList body))

theorem Stmt.outcome_pruneElseIfs : ∀ branches : List Branch,
    outcome (Stmt.renderElseIfs (target.under other)
        (Stmt.pruneBranches target.directives branches)) =
      outcome (Stmt.renderElseIfs target branches)
  | [] => rfl
  | .mk guard body :: rest => by
      rw [Stmt.pruneBranches, Stmt.renderElseIfs, Stmt.renderElseIfs]
      refine comp_congr rfl (comp_congr (indented_congr (Stmt.outcome_pruneList body)) ?_)
      exact Stmt.outcome_pruneElseIfs rest

theorem Stmt.outcome_pruneCases (subject : String) : ∀ branches : List Branch,
    outcome (Stmt.renderCases (target.under other) subject
        (Stmt.pruneBranches target.directives branches)) =
      outcome (Stmt.renderCases target subject branches)
  | [] => rfl
  | .mk guard body :: rest => by
      rw [Stmt.pruneBranches, Stmt.renderCases, Stmt.renderCases]
      refine comp_congr rfl (comp_congr (indented_congr (Stmt.outcome_pruneList body)) ?_)
      exact Stmt.outcome_pruneCases subject rest

end

end Statements

section Members

variable (target : Target) (other : DirectiveTable)

theorem outcome_renderAccessor_prune (header : String) (body : Option (List Stmt)) :
    outcome (renderAccessor (target.under other) header
        (Stmt.pruneOption target.directives body)) =
      outcome (renderAccessor target header body) := by
  cases body with
  | none => rfl
  | some body =>
      refine comp_congr rfl (comp_congr (indented_congr ?_) rfl)
      exact Stmt.outcome_pruneList target other body

/-- Pruning neither adds nor removes an accessor. -/
theorem FullProperty.check_prune (table : DirectiveTable) (property : FullProperty) :
    (property.prune table).check = property.check := by
  obtain ⟨type, name, getter, setter⟩ := property
  cases getter <;> cases setter <;> rfl

theorem FullProperty.outcome_prune (property : FullProperty) :
    outcome ((property.prune target.directives).render (target.under other)) =
      outcome (property.render target) := by
  unfold FullProperty.render
  rw [FullProperty.check_prune]
  refine comp_congr rfl (comp_congr rfl ?_)
  refine comp_congr (outcome_renderAccessor_prune target other _ property.getter) ?_
  exact comp_congr (outcome_renderAccessor_prune target other _ property.setter) rfl

theorem FunctionDecl.outcome_prune (decl : FunctionDecl) :
    outcome ((decl.prune target.directives).render (target.under other)) =
      outcome (decl.render target) := by
  refine comp_congr rfl (comp_congr (indented_congr ?_) rfl)
  exact Stmt.outcome_pruneList target other decl.body

theorem EventDecl.outcome_prune (decl : EventDecl) :
    outcome ((decl.prune target.directives).render (target.under other)) =
      outcome (decl.render target) := by
  refine comp_congr rfl (comp_congr (indented_congr ?_) rfl)
  exact Stmt.outcome_pruneList target other decl.body

theorem Member.outcome_renderList_singleton (target : Target) (member : Member) :
    outcome (Member.renderList target [member]) = outcome (member.render target) := by
  rw [Member.renderList_eq_sequence, List.map_singleton, outcome_sequence_singleton]

theorem Member.outcome_renderList_append (target : Target) (first second : List Member) :
    outcome (Member.renderList target (first ++ second)) =
      outcome (Member.renderList target first >=> Member.renderList target second) := by
  simp only [Member.renderList_eq_sequence, List.map_append, outcome_sequence_append]

mutual

theorem Member.outcome_prune : ∀ member : Member,
    outcome (Member.renderList (target.under other) (member.prune target.directives)) =
      outcome (member.render target)
  | .importScript path => by
      rw [Member.prune, Member.outcome_renderList_singleton]
      rfl
  | .variable decl => by
      rw [Member.prune, Member.outcome_renderList_singleton]
      rfl
  | .inferred decl => by
      rw [Member.prune, Member.outcome_renderList_singleton]
      rfl
  | .autoProperty property => by
      rw [Member.prune, Member.outcome_renderList_singleton]
      rfl
  | .fullProperty property => by
      rw [Member.prune, Member.outcome_renderList_singleton]
      exact FullProperty.outcome_prune target other property
  | .function decl => by
      rw [Member.prune, Member.outcome_renderList_singleton]
      exact FunctionDecl.outcome_prune target other decl
  | .event decl => by
      rw [Member.prune, Member.outcome_renderList_singleton]
      exact EventDecl.outcome_prune target other decl
  | .state name auto members => by
      rw [Member.prune, Member.outcome_renderList_singleton, Member.render, Member.render]
      exact comp_congr rfl (comp_congr (indented_congr (Member.outcome_pruneList members)) rfl)
  | .struct decl => by
      rw [Member.prune, Member.outcome_renderList_singleton]
      rfl
  | .group name flags members => by
      rw [Member.prune, Member.outcome_renderList_singleton, Member.render, Member.render]
      refine comp_congr rfl (comp_congr rfl ?_)
      exact comp_congr (indented_congr (Member.outcome_pruneList members)) rfl
  | .conditional name body => by
      rw [Member.prune, Member.render, Target.outcome_whenEnabled, DirectiveTable.keep]
      split
      · exact Member.outcome_pruneList body
      · rw [Member.renderList, outcome_skip]

theorem Member.outcome_pruneList : ∀ members : List Member,
    outcome (Member.renderList (target.under other)
        (Member.pruneList target.directives members)) =
      outcome (Member.renderList target members)
  | [] => rfl
  | member :: rest => by
      rw [Member.pruneList, Member.outcome_renderList_append, Member.renderList]
      exact comp_congr (Member.outcome_prune member) (Member.outcome_pruneList rest)

end

end Members

/-- Generating a script is generating the pruned script, whatever table is given then: the text is
the same, or the error is. -/
theorem Script.generate_prune (game : Game) (table other : DirectiveTable) (script : Script) :
    ((script.prune table).generate game other).result = (script.generate game table).result := by
  rw [Script.generate_result, Script.generate_result]
  have same : outcome ((script.prune table).render ⟨game, other, .flat⟩) =
      outcome (script.render ⟨game, table, .flat⟩) :=
    comp_congr rfl (comp_congr rfl (Member.outcome_pruneList ⟨game, table, .flat⟩ other _))
  rw [same]

end PapyrusWriter
