import Mathlib.Tactic.Tauto
import PapyrusWriter.Proofs.Construct
import PapyrusWriter.Proofs.Pruning
/-!
# Which scripts are generated

A script is generated exactly when each construct of its enabled part fits the game
(`Script.generate_succeeds_iff`). The proof follows the renderer: `Succeeds` says when a computation
gives a value, `Renderer.SucceedsIff` says the same of a renderer on every page, and there is a rule
for each way to build one.
-/

namespace PapyrusWriter

set_option autoImplicit false

/-! ## Success -/

/-- The computation gives a value. -/
def Succeeds {ε α : Type} (result : Except ε α) : Prop := ∃ a, result = .ok a

namespace Succeeds

variable {ε α β : Type}

theorem of_ok (a : α) : Succeeds (.ok a : Except ε α) := ⟨a, rfl⟩

@[simp] theorem of_pure (a : α) : Succeeds (pure a : Except ε α) := of_ok a

theorem not_error (error : ε) : ¬ Succeeds (.error error : Except ε α) := by
  rintro ⟨a, impossible⟩
  cases impossible

/-- A sequence succeeds when both parts do, if the value does not matter for the second. -/
theorem bind_iff {result : Except ε α} {next : α → Except ε β} {P : Prop}
    (each : ∀ a, Succeeds (next a) ↔ P) : Succeeds (result >>= next) ↔ Succeeds result ∧ P := by
  cases result with
  | ok a =>
      have first : Succeeds (.ok a : Except ε α) := of_ok a
      exact (each a).trans (by simp [first])
  | error error =>
      have refused : ¬ Succeeds (.error error : Except ε α) := not_error error
      exact ⟨fun h => absurd h (not_error error), fun h => absurd h.1 refused⟩

/-- A pure step adds no condition. -/
theorem bind_pure_iff {result : Except ε α} (f : α → β) :
    Succeeds (result >>= fun a => pure (f a)) ↔ Succeeds result :=
  (bind_iff fun a => iff_true_intro (of_ok (f a))).trans (and_true _).to_iff

theorem require_iff {game : Game} (feature : Feature) :
    Succeeds (game.require feature) ↔ game ≠ .skyrimSE := by
  cases game with
  | skyrimSE => exact iff_of_false (not_error _) fun differ => differ rfl
  | fallout4 => exact iff_of_true (of_ok ()) (by simp)

theorem requireIf_iff {game : Game} {asked : Bool} {feature : Feature} :
    Succeeds (game.requireIf asked feature) ↔ (game = .skyrimSE → asked = false) := by
  cases asked with
  | false => exact iff_of_true (of_ok ()) fun _ => rfl
  | true => simpa [Game.requireIf] using require_iff feature

end Succeeds

/-- The renderer succeeds under the condition, on every page. -/
def Renderer.SucceedsIff (renderer : Renderer) (condition : Prop) : Prop :=
  ∀ page, Succeeds (Renderer.outcome renderer page) ↔ condition

namespace Renderer.SucceedsIff

variable {P Q : Prop} {first second body : Renderer}

theorem skip : SucceedsIff Renderer.skip True :=
  fun page => iff_true_intro (Succeeds.of_ok page)

theorem emit (text : String) : SucceedsIff (Renderer.emit text) True :=
  fun page => iff_true_intro (Succeeds.of_ok (page.emit text))

theorem emitAll (texts : List String) : SucceedsIff (Renderer.emitAll texts) True :=
  fun page => iff_true_intro (Succeeds.of_ok (texts.foldl Page.emit page))

theorem lift {α : Type} {value : Except TranspileError α} {next : α → Renderer}
    (each : ∀ a, SucceedsIff (next a) P) :
    SucceedsIff (fun page => do next (← value) page) (Succeeds value ∧ P) := by
  intro page
  rw [outcome_lift]
  exact Succeeds.bind_iff fun a => each a page

theorem emitLine (text : Except TranspileError String) :
    SucceedsIff (Renderer.emitLine text) (Succeeds text) := by
  intro page
  rw [outcome_emitLine]
  exact Succeeds.bind_pure_iff page.emit

theorem check (result : Except TranspileError Unit) :
    SucceedsIff (Renderer.check result) (Succeeds result) := by
  intro page
  rw [outcome_check]
  exact Succeeds.bind_pure_iff fun _ => page

theorem comp (firsts : SucceedsIff first P) (seconds : SucceedsIff second Q) :
    SucceedsIff (first >=> second) (P ∧ Q) := by
  intro page
  rw [outcome_comp, ← firsts page]
  exact Succeeds.bind_iff seconds

variable {game : Game} {table : DirectiveTable}

theorem indented (bodies : SucceedsIff body P) :
    SucceedsIff (Target.indented ⟨game, table, .flat⟩ body) P := by
  intro page
  rw [Target.indented, outcome_indented, ← bodies page.enter]
  exact Succeeds.bind_pure_iff Page.exit

theorem loopBody (bodies : SucceedsIff body P) :
    SucceedsIff (Target.loopBody ⟨game, table, .flat⟩ body) P := by
  intro page
  show Succeeds (outcome (Renderer.flattened _ _) page) ↔ P
  rw [outcome_flattened, ← bodies Page.blank]
  exact Succeeds.bind_pure_iff _

theorem congr (succeeds : SucceedsIff body P) (same : P ↔ Q) : SucceedsIff body Q :=
  fun page => (succeeds page).trans same

end Renderer.SucceedsIff

/-! ## Expressions -/

section Expressions

open Construct (AllFit Fits)

variable (game : Game)

mutual

theorem Expr.succeeds_render : ∀ expr : Expr,
    Succeeds (expr.render game) ↔ AllFit game expr.constructs
  | .literal value => by
      rw [Expr.render, Construct.allFit_plain rfl rfl, Expr.inside]
      simp
  | .name qualified => by
      rw [Expr.render, Construct.allFit_plain rfl rfl, Expr.inside]
      simp
  | .binary lhs op rhs => by
      rw [Construct.allFit_plain rfl rfl, Expr.render,
        Succeeds.bind_iff fun left => Succeeds.bind_pure_iff _, Expr.succeeds_render lhs,
        Expr.succeeds_render rhs]
      exact Construct.allFit_append.symm
  | .not operand => by
      rw [Expr.render, Succeeds.bind_pure_iff, Construct.allFit_plain rfl rfl]
      exact Expr.succeeds_render operand
  | .negate operand => by
      rw [Expr.render, Succeeds.bind_pure_iff, Construct.allFit_plain rfl rfl]
      exact Expr.succeeds_render operand
  | .paren inner => by
      rw [Expr.render, Succeeds.bind_pure_iff, Construct.allFit_plain rfl rfl]
      exact Expr.succeeds_render inner
  | .assign target op value => by
      rw [Construct.allFit_plain rfl rfl, Expr.render,
        Succeeds.bind_iff fun left => Succeeds.bind_pure_iff _, Expr.succeeds_render target,
        Expr.succeeds_render value]
      exact Construct.allFit_append.symm
  | .call callee args => by
      rw [Expr.render, Succeeds.bind_pure_iff, Construct.allFit_plain rfl rfl]
      exact Expr.succeeds_renderList args
  | .index array position => by
      rw [Construct.allFit_plain rfl rfl, Expr.render,
        Succeeds.bind_iff fun left => Succeeds.bind_pure_iff _, Expr.succeeds_render array,
        Expr.succeeds_render position]
      exact Construct.allFit_append.symm
  | .newArray elementType size => by
      rw [Expr.render, Succeeds.bind_pure_iff, Construct.allFit_plain rfl rfl]
      exact Expr.succeeds_render size
  | .newStruct structType => by
      rw [Expr.render, Succeeds.bind_pure_iff, Succeeds.require_iff]
      simp [Expr.constructs, Expr.inside, Expr.isInitializer, Expr.isExtended]
  | .arrayInit elements => by
      have refused : ¬ Succeeds ((Expr.arrayInit elements).render game) := Succeeds.not_error _
      simp [refused, Expr.constructs, Expr.isInitializer]
  | .structInit fields => by
      have refused : ¬ Succeeds ((Expr.structInit fields).render game) := by
        cases game <;> exact Succeeds.not_error _
      simp [refused, Expr.constructs, Expr.isInitializer]
  | .cast operand target => by
      rw [Expr.render, Succeeds.bind_pure_iff, Construct.allFit_plain rfl rfl]
      exact Expr.succeeds_render operand
  | .is operand target => by
      rw [Expr.render, Succeeds.bind_pure_iff, Construct.allFit_plain rfl rfl]
      exact Expr.succeeds_render operand
  | .increment target => by
      rw [Expr.render, Construct.allFit_plain rfl rfl, Expr.inside]
      simp
  | .decrement target => by
      rw [Expr.render, Construct.allFit_plain rfl rfl, Expr.inside]
      simp

theorem Expr.succeeds_renderList : ∀ exprs : List Expr,
    Succeeds (Expr.renderList game exprs) ↔ AllFit game (Expr.insideList exprs)
  | [] => by
      rw [Expr.renderList, Expr.insideList]
      simp
  | expr :: rest => by
      rw [Expr.renderList, Succeeds.bind_iff fun text => Succeeds.bind_pure_iff _,
        Expr.succeeds_render expr, Expr.succeeds_renderList rest]
      exact Construct.allFit_append.symm

end

theorem Expr.succeeds_keywordLine (keyword : String) (expr : Expr) :
    Succeeds (keywordLine game keyword expr) ↔ AllFit game expr.constructs := by
  rw [keywordLine, Succeeds.bind_pure_iff]
  exact Expr.succeeds_render game expr

end Expressions

/-! ## Declarations -/

section Declarations

open Construct (AllFit)
open Renderer

variable (game : Game)

theorem succeeds_declarationSuffix (constant conditional : Bool) :
    Succeeds (declarationSuffix game constant conditional) ↔
      (game = .skyrimSE → constant = false) := by
  rw [declarationSuffix_eq, Succeeds.bind_pure_iff, Succeeds.requireIf_iff]

theorem succeedsIff_fieldAssignments (name : String) : ∀ fields : List FieldInit,
    SucceedsIff (fieldAssignments game name fields) (AllFit game (Expr.insideFields fields))
  | [] => SucceedsIff.skip.congr (by simp [Expr.insideFields])
  | .mk field value :: rest => by
      refine ((SucceedsIff.emitLine _).comp (succeedsIff_fieldAssignments name rest)).congr ?_
      rw [Succeeds.bind_pure_iff, Expr.succeeds_render game value]
      exact Construct.allFit_append.symm

/-- An initializer goes with the declared type, or tells the type itself. -/
def InitialTyped (name : String) (declared : Option TypeRef) : Option Expr → Prop
  | some (.arrayInit elements) => Succeeds (arrayElementType name declared elements)
  | some (.structInit _) => Succeeds (structInitType name declared)
  | _ => True

theorem succeedsIff_declaration (head name : String) (declared : Option TypeRef)
    (init : Option Expr) (suffix : String) :
    SucceedsIff (declaration game head name declared init suffix)
      (InitialTyped name declared init ∧ AllFit game (Expr.initialConstructs init)) := by
  unfold declaration
  split
  · exact (SucceedsIff.emit _).congr (by simp [InitialTyped, Expr.initialConstructs])
  · refine ((SucceedsIff.emitLine _).comp (SucceedsIff.emitAll _)).congr ?_
    rw [Succeeds.bind_pure_iff]
    simp [InitialTyped, Expr.initialConstructs, Expr.inside, Expr.isExtended]
  · rename_i fields
    refine ((SucceedsIff.emitLine _).comp (succeedsIff_fieldAssignments game name fields)).congr ?_
    have fits : (Construct.initial (.structInit fields)).Fits game ↔ game ≠ .skyrimSE := by
      simp [Expr.isExtended]
    rw [Succeeds.bind_iff fun _ => Succeeds.bind_pure_iff _, Succeeds.require_iff,
      Expr.initialConstructs, Construct.allFit_cons, fits, InitialTyped, Expr.inside]
    tauto
  · -- Any other value is at home here as anywhere else.
    rename_i value notArray notStruct
    refine (SucceedsIff.emitLine _).congr ?_
    have ordinary : value.isInitializer = false := by
      cases value <;> simp_all [Expr.isInitializer]
    have typed : InitialTyped name declared (some value) := by
      cases value <;> simp_all [InitialTyped]
    rw [Succeeds.bind_pure_iff, Expr.succeeds_render game value]
    simp [typed, Expr.initialConstructs, Expr.constructs, ordinary]

theorem VariableDecl.initialTyped_iff (decl : VariableDecl) (name : String) :
    InitialTyped name (some decl.type) decl.init ↔ decl.isMismatched = false := by
  unfold isMismatched
  cases decl.init with
  | none => simp [InitialTyped]
  | some value =>
      cases value with
      | arrayInit elements =>
          cases array : decl.type.array <;> simp [InitialTyped, arrayElementType, array, Succeeds]
      | structInit fields =>
          cases array : decl.type.array <;> simp [InitialTyped, structInitType, array, Succeeds]
      | _ => simp [InitialTyped]

theorem InferredVariable.initialTyped_iff (decl : InferredVariable) (name : String) :
    InitialTyped name none decl.init ↔ decl.isUntyped = false := by
  unfold isUntyped
  cases decl.init with
  | none => simp [InitialTyped]
  | some value =>
      cases value with
      | arrayInit elements =>
          -- The first element decides, if there is one.
          cases elements with
          | nil => simp [InitialTyped, arrayElementType, Succeeds]
          | cons first rest =>
              cases first <;> simp [InitialTyped, arrayElementType, Literal.typeName?, Succeeds]
      | structInit fields => simp [InitialTyped, structInitType, Succeeds]
      | _ => simp [InitialTyped]

theorem VariableDecl.succeedsIff_render (decl : VariableDecl) :
    SucceedsIff (decl.render game) (AllFit game decl.constructs) := by
  refine (SucceedsIff.lift fun suffix => succeedsIff_declaration game _ _ _ _ suffix).congr ?_
  rw [succeeds_declarationSuffix, decl.initialTyped_iff, VariableDecl.constructs,
    Construct.allFit_cons, Construct.fits_variable]
  tauto

theorem InferredVariable.succeedsIff_render (decl : InferredVariable) :
    SucceedsIff (decl.render game) (AllFit game decl.constructs) := by
  refine (SucceedsIff.lift fun _ =>
    SucceedsIff.lift fun suffix => succeedsIff_declaration game _ _ _ _ suffix).congr ?_
  rw [Succeeds.require_iff, succeeds_declarationSuffix, decl.initialTyped_iff,
    InferredVariable.constructs, Construct.allFit_cons, Construct.fits_inferred]
  tauto

end Declarations

/-! ## Statements -/

section Statements

open Construct (AllFit)
open Renderer

theorem Stmt.listConstructs_singleton (stmt : Stmt) :
    Stmt.listConstructs [stmt] = stmt.constructs := by
  rw [Stmt.listConstructs, Stmt.listConstructs, List.append_nil]

theorem Stmt.listConstructs_append (front back : List Stmt) :
    Stmt.listConstructs (front ++ back) = Stmt.listConstructs front ++ Stmt.listConstructs back := by
  induction front with
  | nil => rfl
  | cons stmt rest ih =>
      rw [List.cons_append, Stmt.listConstructs, Stmt.listConstructs, ih, List.append_assoc]

variable (game : Game) (table : DirectiveTable)

mutual

theorem Stmt.succeedsIff_render : ∀ stmt : Stmt,
    SucceedsIff (stmt.render ⟨game, table, .flat⟩)
      (AllFit game (Stmt.listConstructs (stmt.prune table)))
  | .expr inner => by
      rw [Stmt.prune, Stmt.listConstructs_singleton]
      exact (SucceedsIff.emitLine _).congr (Expr.succeeds_render game inner)
  | .ret none => by
      rw [Stmt.prune, Stmt.listConstructs_singleton]
      exact (SucceedsIff.emit _).congr (by simp [Stmt.constructs, Expr.optionConstructs])
  | .ret (some value) => by
      rw [Stmt.prune, Stmt.listConstructs_singleton]
      exact (SucceedsIff.emitLine _).congr (Expr.succeeds_keywordLine game _ value)
  | .variable decl => by
      rw [Stmt.prune, Stmt.listConstructs_singleton]
      exact decl.succeedsIff_render game
  | .inferred decl => by
      rw [Stmt.prune, Stmt.listConstructs_singleton]
      exact decl.succeedsIff_render game
  | .ifElse condition body elseIfs elseBody => by
      rw [Stmt.prune, Stmt.listConstructs_singleton, Stmt.render, Stmt.constructs]
      refine ((SucceedsIff.emitLine _).comp <|
        (Stmt.succeedsIff_renderList body).indented.comp <|
        (Stmt.succeedsIff_renderElseIfs elseIfs).comp <|
        (Stmt.succeedsIff_renderElse elseBody).comp <| SucceedsIff.emit _).congr ?_
      rw [Expr.succeeds_keywordLine]
      simp only [Construct.allFit_append, and_true, and_assoc]
  | .while condition body => by
      rw [Stmt.prune, Stmt.listConstructs_singleton, Stmt.render, Stmt.constructs]
      refine ((SucceedsIff.emitLine _).comp <|
        (Stmt.succeedsIff_renderList body).loopBody.comp <| SucceedsIff.emit _).congr ?_
      rw [Expr.succeeds_keywordLine]
      simp only [Construct.allFit_append, and_true]
  | .range element array body => by
      rw [Stmt.prune, Stmt.listConstructs_singleton, Stmt.render, Stmt.constructs]
      refine ((SucceedsIff.emit _).comp <| (SucceedsIff.emit _).comp <|
        ((SucceedsIff.emit _).comp <| (Stmt.succeedsIff_renderList body).comp <|
          SucceedsIff.emit _).indented.comp <| SucceedsIff.emit _).congr ?_
      simp only [and_true, true_and]
  | .switch subject [] default => by
      rw [Stmt.prune, Stmt.listConstructs_singleton, Stmt.render, Stmt.constructs]
      refine (SucceedsIff.lift fun _ => Stmt.succeedsIff_renderOption default).congr ?_
      rw [Expr.succeeds_render game subject]
      simp only [Stmt.pruneBranches, Stmt.branchConstructs, List.append_nil,
        Construct.allFit_append]
  | .switch subject (.mk guard body :: cases) default => by
      rw [Stmt.prune, Stmt.listConstructs_singleton, Stmt.render, Stmt.constructs]
      refine (SucceedsIff.lift fun text => (SucceedsIff.emitLine _).congr
          (Expr.succeeds_keywordLine game _ guard) |>.comp <|
        (Stmt.succeedsIff_renderList body).indented.comp <|
        (Stmt.succeedsIff_renderCases text cases).comp <|
        (Stmt.succeedsIff_renderElse default).comp <| SucceedsIff.emit "EndIf").congr ?_
      rw [Expr.succeeds_render game subject]
      simp only [Stmt.pruneBranches, Stmt.branchConstructs, Construct.allFit_append, and_true,
        and_assoc]
  | .conditional name body => by
      rw [Stmt.prune, Stmt.render, DirectiveTable.keep]
      intro page
      rw [Target.outcome_whenEnabled]
      split
      · exact Stmt.succeedsIff_renderList body page
      · exact iff_of_true (Succeeds.of_ok page) Construct.allFit_nil

theorem Stmt.succeedsIff_renderList : ∀ body : List Stmt,
    SucceedsIff (Stmt.renderList ⟨game, table, .flat⟩ body)
      (AllFit game (Stmt.listConstructs (Stmt.pruneList table body)))
  | [] => SucceedsIff.skip.congr (iff_of_true trivial Construct.allFit_nil)
  | stmt :: rest => by
      rw [Stmt.renderList, Stmt.pruneList, Stmt.listConstructs_append]
      refine ((Stmt.succeedsIff_render stmt).comp (Stmt.succeedsIff_renderList rest)).congr ?_
      exact Construct.allFit_append.symm

theorem Stmt.succeedsIff_renderOption : ∀ body : Option (List Stmt),
    SucceedsIff (Stmt.renderOption ⟨game, table, .flat⟩ body)
      (AllFit game (Stmt.optionConstructs (Stmt.pruneOption table body)))
  | none => SucceedsIff.skip.congr (iff_of_true trivial Construct.allFit_nil)
  | some body => Stmt.succeedsIff_renderList body

theorem Stmt.succeedsIff_renderElse : ∀ body : Option (List Stmt),
    SucceedsIff (Stmt.renderElse ⟨game, table, .flat⟩ body)
      (AllFit game (Stmt.optionConstructs (Stmt.pruneOption table body)))
  | none => SucceedsIff.skip.congr (iff_of_true trivial Construct.allFit_nil)
  | some body =>
      ((SucceedsIff.emit "Else").comp (Stmt.succeedsIff_renderList body).indented).congr
        (true_and _).to_iff

theorem Stmt.succeedsIff_renderElseIfs : ∀ branches : List Branch,
    SucceedsIff (Stmt.renderElseIfs ⟨game, table, .flat⟩ branches)
      (AllFit game (Stmt.branchConstructs (Stmt.pruneBranches table branches)))
  | [] => SucceedsIff.skip.congr (iff_of_true trivial Construct.allFit_nil)
  | .mk guard body :: rest => by
      rw [Stmt.renderElseIfs, Stmt.pruneBranches, Stmt.branchConstructs]
      refine ((SucceedsIff.emitLine _).comp <|
        (Stmt.succeedsIff_renderList body).indented.comp <|
        Stmt.succeedsIff_renderElseIfs rest).congr ?_
      rw [Expr.succeeds_keywordLine]
      simp only [Construct.allFit_append, and_assoc]

theorem Stmt.succeedsIff_renderCases (subject : String) : ∀ branches : List Branch,
    SucceedsIff (Stmt.renderCases ⟨game, table, .flat⟩ subject branches)
      (AllFit game (Stmt.branchConstructs (Stmt.pruneBranches table branches)))
  | [] => SucceedsIff.skip.congr (iff_of_true trivial Construct.allFit_nil)
  | .mk guard body :: rest => by
      rw [Stmt.renderCases, Stmt.pruneBranches, Stmt.branchConstructs]
      refine ((SucceedsIff.emitLine _).comp <|
        (Stmt.succeedsIff_renderList body).indented.comp <|
        Stmt.succeedsIff_renderCases subject rest).congr ?_
      rw [Expr.succeeds_keywordLine]
      simp only [Construct.allFit_append, and_assoc]

end

end Statements

/-! ## Members -/

section Members

open Construct (AllFit)
open Renderer

section Headers

variable (game : Game)

theorem Param.succeeds_render (param : Param) :
    Succeeds (param.render game) ↔ AllFit game param.constructs := by
  obtain ⟨type, name, default⟩ := param
  cases default with
  | none => exact iff_of_true (Succeeds.of_ok _) Construct.allFit_nil
  | some value => exact (Succeeds.bind_pure_iff _).trans (Expr.succeeds_render game value)

theorem Param.succeeds_renderList (params : List Param) :
    Succeeds (Param.renderList game params) ↔ AllFit game (params.flatMap Param.constructs) := by
  induction params with
  | nil => exact iff_of_true (Succeeds.of_ok _) Construct.allFit_nil
  | cons param rest ih =>
      rw [Param.renderList, Succeeds.bind_iff fun text => Succeeds.bind_pure_iff _,
        param.succeeds_render, ih, List.flatMap_cons, Construct.allFit_append]

theorem succeeds_signature (name : Identifier) (params : List Param) :
    Succeeds (signature game name params) ↔ AllFit game (params.flatMap Param.constructs) := by
  rw [signature, Succeeds.bind_pure_iff, Param.succeeds_renderList]

theorem AutoProperty.succeeds_valueText (property : AutoProperty) :
    Succeeds (property.valueText game) ↔ AllFit game (Expr.optionConstructs property.init) := by
  unfold AutoProperty.valueText
  cases property.init with
  | none => exact iff_of_true (Succeeds.of_ok _) Construct.allFit_nil
  | some init => exact (Succeeds.bind_pure_iff _).trans (Expr.succeeds_render game init)

theorem AutoProperty.succeeds_line (property : AutoProperty) :
    Succeeds (property.line game) ↔
      AllFit game (.autoProperty property :: Expr.optionConstructs property.init) := by
  have fits : (Construct.autoProperty property).Fits game ↔
      (game = .skyrimSE → property.constant = false) ∧
        (game = .skyrimSE → property.mandatory = false) := by
    simp [Construct.Fits, Construct.malformed, Construct.extended, forall_and]
  rw [AutoProperty.line_eq, Succeeds.bind_iff fun value =>
    Succeeds.bind_iff fun _ => Succeeds.bind_pure_iff _]
  rw [property.succeeds_valueText, Succeeds.requireIf_iff, Succeeds.requireIf_iff,
    Construct.allFit_cons, fits, and_comm]

theorem FullProperty.succeeds_check (property : FullProperty) :
    Succeeds property.check ↔ (Construct.fullProperty property).Fits game := by
  have fits : (Construct.fullProperty property).Fits game ↔
      (property.getter.isNone && property.setter.isNone) = false ∧
        property.type.isVoid = false := by
    simp [Construct.Fits, Construct.malformed, Construct.extended, TypeRef.isVoid]
  rw [fits, FullProperty.check]
  cases property.getter.isNone && property.setter.isNone with
  | true => exact iff_of_false (Succeeds.not_error _) (by simp)
  | false =>
      cases property.type.isVoid with
      | true => exact iff_of_false (Succeeds.not_error _) (by simp)
      | false => exact iff_of_true (Succeeds.of_ok _) ⟨rfl, rfl⟩

theorem ScriptFlag.succeeds_check (flag : ScriptFlag) :
    Succeeds (flag.check game) ↔ (Construct.flag flag).Fits game := by
  unfold ScriptFlag.check
  cases flag <;>
    simp [ScriptFlag.feature?, Succeeds.require_iff, Construct.Fits, Construct.malformed,
      Construct.extended]

theorem ScriptFlag.succeeds_checkAll (flags : List ScriptFlag) :
    Succeeds (ScriptFlag.checkAll game flags) ↔ AllFit game (flags.map Construct.flag) := by
  induction flags with
  | nil => exact iff_of_true (Succeeds.of_ok _) Construct.allFit_nil
  | cons flag rest ih =>
      rw [ScriptFlag.checkAll, Succeeds.bind_iff fun _ => ih, List.map_cons, Construct.allFit_cons,
        flag.succeeds_check]

theorem VariableDecl.succeedsIff_renderList (decls : List VariableDecl) :
    SucceedsIff (VariableDecl.renderList game decls)
      (AllFit game (decls.flatMap VariableDecl.constructs)) := by
  induction decls with
  | nil => exact SucceedsIff.skip.congr (iff_of_true trivial Construct.allFit_nil)
  | cons decl rest ih =>
      rw [List.flatMap_cons]
      exact ((decl.succeedsIff_render game).comp ih).congr Construct.allFit_append.symm

end Headers

variable (game : Game) (table : DirectiveTable)

theorem succeedsIff_renderAccessor (header : String) (body : Option (List Stmt)) :
    SucceedsIff (renderAccessor ⟨game, table, .flat⟩ header body)
      (AllFit game (Stmt.optionConstructs (Stmt.pruneOption table body))) := by
  cases body with
  | none => exact SucceedsIff.skip.congr (iff_of_true trivial Construct.allFit_nil)
  | some body =>
      refine ((SucceedsIff.emit _).comp <|
        (Stmt.succeedsIff_renderList game table body).indented.comp <| SucceedsIff.emit _).congr ?_
      simp only [and_true, true_and]
      rfl

theorem Member.listConstructs_singleton (member : Member) :
    Member.listConstructs [member] = member.constructs := by
  rw [Member.listConstructs, Member.listConstructs, List.append_nil]

theorem Member.listConstructs_append (front back : List Member) :
    Member.listConstructs (front ++ back) =
      Member.listConstructs front ++ Member.listConstructs back := by
  induction front with
  | nil => rfl
  | cons member rest ih =>
      rw [List.cons_append, Member.listConstructs, Member.listConstructs, ih, List.append_assoc]

mutual

theorem Member.succeedsIff_render : ∀ member : Member,
    SucceedsIff (member.render ⟨game, table, .flat⟩)
      (AllFit game (Member.listConstructs (member.prune table)))
  | .importScript path => by
      rw [Member.prune, Member.listConstructs_singleton]
      exact (SucceedsIff.emit _).congr (iff_of_true trivial Construct.allFit_nil)
  | .variable decl => by
      rw [Member.prune, Member.listConstructs_singleton]
      exact decl.succeedsIff_render game
  | .inferred decl => by
      rw [Member.prune, Member.listConstructs_singleton]
      exact decl.succeedsIff_render game
  | .autoProperty property => by
      rw [Member.prune, Member.listConstructs_singleton]
      exact (SucceedsIff.emitLine _).congr (property.succeeds_line game)
  | .fullProperty property => by
      rw [Member.prune, Member.listConstructs_singleton, Member.render, Member.constructs]
      refine ((SucceedsIff.check _).comp <| (SucceedsIff.emit _).comp <|
        (succeedsIff_renderAccessor game table _ property.getter).comp <|
        (succeedsIff_renderAccessor game table _ property.setter).comp <|
        SucceedsIff.emit _).congr ?_
      rw [← FullProperty.check_prune table, FullProperty.succeeds_check game]
      simp only [Construct.allFit_cons, Construct.allFit_append, and_true, true_and]
      rfl
  | .function decl => by
      rw [Member.prune, Member.listConstructs_singleton, Member.render, Member.constructs]
      refine ((SucceedsIff.emitLine _).comp <|
        (Stmt.succeedsIff_renderList game table decl.body).indented.comp <|
        (SucceedsIff.emit _).comp <| SucceedsIff.emit _).congr ?_
      rw [FunctionDecl.header, Succeeds.bind_pure_iff, succeeds_signature]
      simp only [Construct.allFit_append, and_true]
      rfl
  | .event decl => by
      rw [Member.prune, Member.listConstructs_singleton, Member.render, Member.constructs]
      refine ((SucceedsIff.emitLine _).comp <|
        (Stmt.succeedsIff_renderList game table decl.body).indented.comp <|
        (SucceedsIff.emit _).comp <| SucceedsIff.emit _).congr ?_
      rw [Succeeds.bind_pure_iff, succeeds_signature]
      simp only [Construct.allFit_append, and_true]
      rfl
  | .state name auto members => by
      rw [Member.prune, Member.listConstructs_singleton, Member.render, Member.constructs]
      refine ((SucceedsIff.emit _).comp <|
        (Member.succeedsIff_renderList members).indented.comp <| SucceedsIff.emit _).congr ?_
      simp only [and_true, true_and]
  | .struct decl => by
      rw [Member.prune, Member.listConstructs_singleton, Member.render, Member.constructs]
      refine ((SucceedsIff.check _).comp <| (SucceedsIff.emit _).comp <|
        (VariableDecl.succeedsIff_renderList game decl.members).indented.comp <|
        SucceedsIff.emit _).congr ?_
      rw [Succeeds.require_iff]
      simp
  | .group name flags members => by
      rw [Member.prune, Member.listConstructs_singleton, Member.render, Member.constructs]
      refine ((SucceedsIff.check _).comp <| (SucceedsIff.emit _).comp <|
        (Member.succeedsIff_renderList members).indented.comp <| SucceedsIff.emit _).congr ?_
      rw [Succeeds.require_iff]
      simp
  | .conditional name body => by
      rw [Member.prune, Member.render, DirectiveTable.keep]
      intro page
      rw [Target.outcome_whenEnabled]
      split
      · exact Member.succeedsIff_renderList body page
      · exact iff_of_true (Succeeds.of_ok page) Construct.allFit_nil

theorem Member.succeedsIff_renderList : ∀ members : List Member,
    SucceedsIff (Member.renderList ⟨game, table, .flat⟩ members)
      (AllFit game (Member.listConstructs (Member.pruneList table members)))
  | [] => SucceedsIff.skip.congr (iff_of_true trivial Construct.allFit_nil)
  | member :: rest => by
      rw [Member.renderList, Member.pruneList, Member.listConstructs_append]
      refine ((Member.succeedsIff_render member).comp (Member.succeedsIff_renderList rest)).congr ?_
      exact Construct.allFit_append.symm

end

theorem Script.succeedsIff_render (script : Script) :
    SucceedsIff (script.render ⟨game, table, .flat⟩)
      (AllFit game (script.prune table).constructs) := by
  refine ((SucceedsIff.emitLine _).comp <| (SucceedsIff.emit _).comp <|
    Member.succeedsIff_renderList game table script.members).congr ?_
  rw [Script.header, Succeeds.bind_pure_iff, ScriptFlag.succeeds_checkAll, true_and]
  exact Construct.allFit_append.symm

end Members

/-- A script is generated exactly when no construct of its header and of its enabled part is
malformed, nor, for the baseline game, extended. -/
theorem Script.generate_succeeds_iff (game : Game) (table : DirectiveTable) (script : Script) :
    (∃ text, (script.generate game table).result = .ok text) ↔
      ∀ construct ∈ (script.prune table).constructs,
        construct.malformed = false ∧ (game = .skyrimSE → construct.extended = false) := by
  rw [Script.generate_result, ← bind_pure_comp]
  refine (Succeeds.bind_pure_iff Page.text).trans ?_
  exact script.succeedsIff_render game table Page.blank

end PapyrusWriter
