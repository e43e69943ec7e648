import Mathlib.Control.Basic
import PapyrusWriter.Transpile
/-!
# What becomes of a page

`Renderer.outcome` is a renderer without the events it reports: a page, or the error that ended the
rendering. There is one equation for each combinator, so that laws about rendering follow the
combinators and never open the log.
-/

namespace PapyrusWriter

set_option autoImplicit false

/-- A gate that only a flag asks for. -/
def Game.requireIf (game : Game) (asked : Bool) (feature : Feature) : Except TranspileError Unit :=
  if asked then game.require feature else .ok ()

theorem declarationSuffix_eq (game : Game) (constant conditional : Bool) :
    declarationSuffix game constant conditional =
      game.requireIf constant .constModifier >>= fun _ => pure (" ".intercalate
        ((if constant then ["Const"] else []) ++ if conditional then ["Conditional"] else [])) := by
  cases constant <;> rfl

/-- What follows the name of an automatic property: its initial value, if it has one. -/
def AutoProperty.valueText (game : Game) (property : AutoProperty) :
    Except TranspileError String :=
  match property.init with
  | none => pure ""
  | some init => init.render game >>= fun text => pure (" = " ++ text)

theorem AutoProperty.line_eq (game : Game) (property : AutoProperty) :
    property.line game =
      property.valueText game >>= fun value =>
      game.requireIf property.constant .constModifier >>= fun _ =>
      game.requireIf property.mandatory .mandatoryModifier >>= fun _ =>
      pure (property.type.text ++ " Property " ++ property.name.normalized ++ value ++ " " ++
        PropertyModifier.autoText property.modifier ++
        (if property.constant then " Const" else "") ++
        (if property.mandatory then " Mandatory" else "")) := by
  obtain ⟨type, name, init, modifier, constant, mandatory⟩ := property
  cases init with
  | none => cases constant <;> cases mandatory <;> rfl
  | some init =>
      dsimp only [AutoProperty.line, AutoProperty.valueText]
      rw [bind_assoc]
      cases constant <;> cases mandatory <;> rfl

namespace Renderer

/-- The page or the error that a renderer gives, whatever it reports. -/
def outcome (renderer : Renderer) (page : Page) : Except TranspileError Page :=
  (renderer page).result

theorem outcome_skip : outcome skip = pure := rfl

theorem outcome_report (event : Event) : outcome (report event) = pure := rfl

/-- A value computed first may decide what is rendered. -/
theorem outcome_lift {α : Type} (value : Except TranspileError α) (next : α → Renderer) :
    outcome (fun page => do next (← value) page) =
      fun page => value >>= fun a => outcome (next a) page := by
  funext page
  exact Logged.result_bind (Logged.ofExcept value) fun a => next a page

theorem outcome_emitLine (text : Except TranspileError String) :
    outcome (emitLine text) = fun page => text >>= fun line => pure (page.emit line) :=
  outcome_lift text emit

theorem outcome_check (result : Except TranspileError Unit) :
    outcome (check result) = fun page => result >>= fun _ => pure page :=
  outcome_lift result fun _ => skip

theorem outcome_comp (first second : Renderer) :
    outcome (first >=> second) = outcome first >=> outcome second := by
  funext page
  exact Logged.result_bind (first page) second

theorem outcome_indented (leave : Page → Except TranspileError Page) (body : Renderer) :
    outcome (indented leave body) = fun page => outcome body page.enter >>= leave := by
  funext page
  exact Logged.result_bind (body page.enter) _

theorem outcome_flattened (leave : Page → Except TranspileError Page) (body : Renderer) :
    outcome (flattened leave body) = fun page => outcome body Page.blank >>= fun inner =>
      leave ((inner.lines.toList.map Text.trim).foldl Page.emit page.enter) := by
  funext page
  exact Logged.result_bind (body Page.blank) _

/-! ## Renderers with the same outcomes -/

variable {first first' second second' body body' : Renderer}

theorem comp_congr (firsts : outcome first = outcome first')
    (seconds : outcome second = outcome second') :
    outcome (first >=> second) = outcome (first' >=> second') := by
  rw [outcome_comp, outcome_comp, firsts, seconds]

variable {leave : Page → Except TranspileError Page}

theorem indented_congr (bodies : outcome body = outcome body') :
    outcome (indented leave body) = outcome (indented leave body') := by
  rw [outcome_indented, outcome_indented, bodies]

theorem flattened_congr (bodies : outcome body = outcome body') :
    outcome (flattened leave body) = outcome (flattened leave body') := by
  rw [outcome_flattened, outcome_flattened, bodies]

/-- Runs renderers one after the other. -/
def sequence : List Renderer → Renderer
  | [] => skip
  | renderer :: rest => renderer >=> sequence rest

theorem outcome_sequence_singleton (renderer : Renderer) :
    outcome (sequence [renderer]) = outcome renderer := by
  rw [sequence, sequence, outcome_comp, outcome_skip, fish_pure]

theorem outcome_sequence_append (front back : List Renderer) :
    outcome (sequence (front ++ back)) = outcome (sequence front >=> sequence back) := by
  induction front with
  | nil => rw [List.nil_append, sequence, outcome_comp, outcome_skip, fish_pipe]
  | cons renderer rest ih =>
      rw [List.cons_append, sequence, sequence, outcome_comp, ih]
      simp only [outcome_comp, fish_assoc]

end Renderer

theorem Stmt.renderList_eq_sequence (target : Target) (body : List Stmt) :
    Stmt.renderList target body = Renderer.sequence (body.map (Stmt.render target)) := by
  induction body with
  | nil => rfl
  | cons stmt rest ih => rw [Stmt.renderList, ih, List.map_cons, Renderer.sequence]

theorem Member.renderList_eq_sequence (target : Target) (members : List Member) :
    Member.renderList target members =
      Renderer.sequence (members.map (Member.render target)) := by
  induction members with
  | nil => rfl
  | cons member rest ih => rw [Member.renderList, ih, List.map_cons, Renderer.sequence]

/-- The layout of a loop looks at its body only through the outcomes. -/
theorem Target.loopBody_congr {target other : Target} {body body' : Renderer}
    (layout : target.layout = other.layout)
    (bodies : Renderer.outcome body = Renderer.outcome body') :
    Renderer.outcome (target.loopBody body) = Renderer.outcome (other.loopBody body') := by
  unfold loopBody indented
  rw [layout]
  cases other.layout.loops with
  | flat => exact Renderer.flattened_congr bodies
  | nested => exact Renderer.indented_congr bodies

/-- A generated script is the page of its renderer. -/
theorem Script.generate_result (game : Game) (directives : DirectiveTable) (script : Script) :
    (script.generate game directives).result =
      Page.text <$> Renderer.outcome (script.render ⟨game, directives, .flat⟩) Page.blank := by
  unfold generate
  rw [Logged.result_bind]
  exact bind_pure_comp Page.text _

/-- Reporting events does not fail. -/
theorem Logged.result_forM_report {ε : Type} (events : List Event) :
    (events.forM Logged.report : Logged ε PUnit).result = .ok ⟨⟩ := by
  induction events with
  | nil => rfl
  | cons event rest ih =>
      rw [List.forM, Logged.result_bind, ih]
      rfl

/-- The stages of `transpile`, without the log. -/
theorem SyntaxTree.transpile_result (read : FileReader) (options : TranspileOptions)
    (tree : SyntaxTree) :
    (tree.transpile read options).result =
      Game.parse options.game >>= fun game =>
      (preprocess read options.includeRoot options.defines tree.directives).result >>= fun state =>
      (tree.script.generate game state.table).result >>= fun generated =>
      pure ⟨state.table.substitute (assemble state.includes generated), state.table⟩ := by
  unfold SyntaxTree.transpile
  simp only [Logged.result_bind, Logged.result_forM_report, Logged.result_pure]
  rfl

/-- What a successful run has gone through. -/
theorem SyntaxTree.stages_of_transpile {read : FileReader} {options : TranspileOptions}
    {tree : SyntaxTree} {result : Transpiled}
    (succeeded : (tree.transpile read options).result = .ok result) :
    ∃ game state script, Game.parse options.game = .ok game ∧
      (preprocess read options.includeRoot options.defines tree.directives).result = .ok state ∧
      (tree.script.generate game state.table).result = .ok script ∧
      result = ⟨state.table.substitute (assemble state.includes script), state.table⟩ := by
  rw [SyntaxTree.transpile_result] at succeeded
  generalize taken : (preprocess read _ _ _).result = directives at succeeded
  cases parsed : Game.parse options.game with
  | error error =>
      rw [parsed] at succeeded
      cases succeeded
  | ok game =>
      rw [parsed] at succeeded
      cases directives with
      | error error => cases succeeded
      | ok state =>
          change ((tree.script.generate game state.table).result >>= _) = _ at succeeded
          cases generated : (tree.script.generate game state.table).result with
          | error error =>
              rw [generated] at succeeded
              cases succeeded
          | ok script =>
              rw [generated] at succeeded
              cases succeeded
              exact ⟨game, state, script, rfl, rfl, generated, rfl⟩

theorem Game.parse_name (game : Game) : Game.parse game.name = .ok game := by
  cases game <;> rfl

/-- The stages after the name of a game is recognised. -/
theorem SyntaxTree.transpile_result_of_name (read : FileReader) (game : Game) (root : String)
    (defines : List (String × String)) (tree : SyntaxTree) :
    (tree.transpile read ⟨game.name, root, defines⟩).result =
      (preprocess read root defines tree.directives).result >>= fun state =>
      (tree.script.generate game state.table).result >>= fun generated =>
      pure ⟨state.table.substitute (assemble state.includes generated), state.table⟩ := by
  rw [SyntaxTree.transpile_result, Game.parse_name]
  rfl

end PapyrusWriter
