import PapyrusWriter.Proofs.Pruning
/-!
# The steps of a rendering

An outline is what a renderer does, as data: lines, bodies one level deeper, bodies of loops, and
texts that have to be computed before the rendering goes on. Every statement, member and script has
its outline, and rendering follows it in every layout (`Script.follows_render`).
-/

namespace PapyrusWriter

set_option autoImplicit false

/-- What a renderer does, step by step. -/
inductive Outline where
  | skip
  | emit (text : String)
  /-- A text on which the rest depends, or the error that ends the rendering. -/
  | need (value : Except TranspileError String) (next : String → Outline)
  | seq (first second : Outline)
  | indented (body : Outline)
  /-- The body of a `While` loop. -/
  | loop (body : Outline)

namespace Outline

/-- Carries out the steps on a page. -/
def run (layout : Layout) : Outline → Page → Except TranspileError Page
  | .skip, page => pure page
  | .emit text, page => pure (page.emit text)
  | .need value next, page => value >>= fun text => (next text).run layout page
  | .seq first second, page => first.run layout page >>= second.run layout
  | .indented body, page => body.run layout page.enter >>= layout.leave
  | .loop body, page =>
      match layout.loops with
      | .flat => body.run layout Page.blank >>= fun inner =>
          layout.leave ((inner.lines.toList.map Text.trim).foldl Page.emit page.enter)
      | .nested => body.run layout page.enter >>= layout.leave

def emitLine (text : Except TranspileError String) : Outline := .need text .emit

def emitAll : List String → Outline
  | [] => .skip
  | text :: rest => .seq (.emit text) (emitAll rest)

def check (result : Except TranspileError Unit) : Outline :=
  .need (result >>= fun _ => pure "") fun _ => .skip

def whenEnabled (table : DirectiveTable) (name : String) (body : Outline) : Outline :=
  if table.get? name = some "true" then body else .skip

end Outline

/-! ## Outlines of declarations and statements -/

section Outlines

variable (game : Game)

def Outline.fieldAssignments (name : String) : List FieldInit → Outline
  | [] => .skip
  | .mk field value :: rest =>
      .seq
        (.emitLine (value.render game >>= fun text =>
          pure (name ++ "." ++ field.normalized ++ " = " ++ text)))
        (Outline.fieldAssignments name rest)

def Outline.declaration (head name : String) (declared : Option TypeRef) (init : Option Expr)
    (suffix : String) : Outline :=
  match init with
  | none => .emit (head ++ " " ++ name ++ " " ++ suffix)
  | some (.arrayInit elements) =>
      .seq
        (.emitLine (arrayElementType name declared elements >>= fun type =>
          pure (head ++ " " ++ name ++ " = new " ++ type.text ++ "[" ++
            toString elements.length ++ "] " ++ suffix)))
        (.emitAll (elementAssignments name 0 elements))
  | some (.structInit fields) =>
      .seq
        (.emitLine (game.require .structInitializer >>= fun _ =>
          structInitType name declared >>= fun type =>
          pure (head ++ " " ++ name ++ " = new " ++ type.text ++ " " ++ suffix)))
        (.fieldAssignments game name fields)
  | some value =>
      .emitLine (value.render game >>= fun text =>
        pure (head ++ " " ++ name ++ " = " ++ text ++ " " ++ suffix))

def VariableDecl.outline (decl : VariableDecl) : Outline :=
  .need (declarationSuffix game decl.constant decl.conditional) fun suffix =>
    .declaration game decl.type.text decl.name.normalized (some decl.type) decl.init suffix

def InferredVariable.outline (decl : InferredVariable) : Outline :=
  .seq (.check (game.require .inferredVariable)) <|
    .need (declarationSuffix game decl.constant decl.conditional) fun suffix =>
      .declaration game "Var" decl.name.normalized none decl.init suffix

variable (table : DirectiveTable)

mutual

def Stmt.outline : Stmt → Outline
  | .expr inner => .emitLine (inner.render game)
  | .ret none => .emit "Return"
  | .ret (some value) => .emitLine (keywordLine game "Return" value)
  | .variable decl => decl.outline game
  | .inferred decl => decl.outline game
  | .ifElse condition body elseIfs elseBody =>
      .seq (.emitLine (keywordLine game "If" condition)) <|
      .seq (.indented (Stmt.outlineList body)) <|
      .seq (Stmt.outlineElseIfs elseIfs) <|
      .seq (Stmt.outlineElse elseBody) <|
      .emit "EndIf"
  | .while condition body =>
      .seq (.emitLine (keywordLine game "While" condition)) <|
      .seq (.loop (Stmt.outlineList body)) <|
      .emit "EndWhile"
  | .range element array body =>
      .seq (.emit ("Int " ++ indexName array ++ " = 0")) <|
      .seq (.emit ("While " ++ indexName array ++ " < " ++ array.normalized ++ ".Length")) <|
      .seq
        (.indented <|
          .seq
            (.emit ("Int " ++ element.normalized ++ " = " ++ array.normalized ++ "[" ++
              indexName array ++ "]")) <|
          .seq (Stmt.outlineList body) <|
          .emit (indexName array ++ " += 1")) <|
      .emit "EndWhile"
  | .switch subject [] default =>
      .need (subject.render game) fun _ => Stmt.outlineOption default
  | .switch subject (.mk guard body :: cases) default =>
      .need (subject.render game) fun text =>
        .seq (.emitLine (keywordLine game ("If " ++ text ++ " ==") guard)) <|
        .seq (.indented (Stmt.outlineList body)) <|
        .seq (Stmt.outlineCases text cases) <|
        .seq (Stmt.outlineElse default) <|
        .emit "EndIf"
  | .conditional name body => .whenEnabled table name (Stmt.outlineList body)

def Stmt.outlineList : List Stmt → Outline
  | [] => .skip
  | stmt :: rest => .seq stmt.outline (Stmt.outlineList rest)

def Stmt.outlineOption : Option (List Stmt) → Outline
  | none => .skip
  | some body => Stmt.outlineList body

def Stmt.outlineElse : Option (List Stmt) → Outline
  | none => .skip
  | some body => .seq (.emit "Else") (.indented (Stmt.outlineList body))

def Stmt.outlineElseIfs : List Branch → Outline
  | [] => .skip
  | .mk guard body :: rest =>
      .seq (.emitLine (keywordLine game "ElseIf" guard)) <|
      .seq (.indented (Stmt.outlineList body)) <|
      Stmt.outlineElseIfs rest

def Stmt.outlineCases (subject : String) : List Branch → Outline
  | [] => .skip
  | .mk guard body :: rest =>
      .seq (.emitLine (keywordLine game ("ElseIf " ++ subject ++ " ==") guard)) <|
      .seq (.indented (Stmt.outlineList body)) <|
      Stmt.outlineCases subject rest

end

/-! ## Outlines of members and scripts -/

def Outline.accessor (header : String) : Option (List Stmt) → Outline
  | none => .skip
  | some body =>
      .seq (.emit header) <|
      .seq (.indented (Stmt.outlineList game table body)) <|
      .emit "EndFunction"

def FullProperty.outline (property : FullProperty) : Outline :=
  .seq (.check property.check) <|
  .seq (.emit (property.type.text ++ " Property " ++ property.name.normalized)) <|
  .seq (.accessor game table (property.type.text ++ " Function Get()") property.getter) <|
  .seq
    (.accessor game table ("Function Set(" ++ property.type.text ++ " value)") property.setter) <|
  .emit "EndProperty"

def FunctionDecl.outline (decl : FunctionDecl) : Outline :=
  .seq (.emitLine (decl.header game)) <|
  .seq (.indented (Stmt.outlineList game table decl.body)) <|
  .seq (.emit "EndFunction") <|
  .emit ""

def EventDecl.outline (decl : EventDecl) : Outline :=
  .seq (.emitLine (signature game decl.name decl.params >>= fun rest => pure ("Event " ++ rest))) <|
  .seq (.indented (Stmt.outlineList game table decl.body)) <|
  .seq (.emit "EndEvent") <|
  .emit ""

def VariableDecl.outlineList : List VariableDecl → Outline
  | [] => .skip
  | decl :: rest => .seq (decl.outline game) (VariableDecl.outlineList rest)

def StructDecl.outline (decl : StructDecl) : Outline :=
  .seq (.check (game.require .structDecl)) <|
  .seq (.emit ("Struct " ++ decl.name.normalized)) <|
  .seq (.indented (VariableDecl.outlineList game decl.members)) <|
  .emit "EndStruct"

mutual

def Member.outline : Member → Outline
  | .importScript path => .emit (importLine path)
  | .variable decl => decl.outline game
  | .inferred decl => decl.outline game
  | .autoProperty property => .emitLine (property.line game)
  | .fullProperty property => property.outline game table
  | .function decl => decl.outline game table
  | .event decl => decl.outline game table
  | .state name auto members =>
      .seq (.emit ((if auto then "Auto " else "") ++ "State " ++ name.normalized)) <|
      .seq (.indented (Member.outlineList members)) <|
      .emit "EndState"
  | .struct decl => decl.outline game
  | .group name flags members =>
      .seq (.check (game.require .groupDecl)) <|
      .seq (.emit ("Group " ++ name.normalized ++ trailing (flags.map GroupFlag.text))) <|
      .seq (.indented (Member.outlineList members)) <|
      .emit "EndGroup"
  | .conditional name body => .whenEnabled table name (Member.outlineList body)

def Member.outlineList : List Member → Outline
  | [] => .skip
  | member :: rest => .seq member.outline (Member.outlineList rest)

end

def Script.outline (script : Script) : Outline :=
  .seq (.emitLine (script.header game)) <|
  .seq (.emit "") <|
  Member.outlineList game table script.members

end Outlines

/-! ## Rendering follows the outline -/

/-- The renderer carries out the steps of the outline. -/
def Renderer.Follows (renderer : Renderer) (layout : Layout) (outline : Outline) : Prop :=
  Renderer.outcome renderer = outline.run layout

namespace Renderer.Follows

variable {layout : Layout} {first second body : Renderer} {a b inner : Outline}

theorem skip : Follows Renderer.skip layout .skip := rfl

theorem emit (text : String) : Follows (Renderer.emit text) layout (.emit text) := rfl

theorem lift {value : Except TranspileError String} {next : String → Renderer}
    {rest : String → Outline} (follows : ∀ text, Follows (next text) layout (rest text)) :
    Follows (fun page => do next (← value) page) layout (.need value rest) := by
  unfold Follows
  rw [outcome_lift]
  funext page
  refine congrArg (value >>= ·) (funext fun text => ?_)
  exact congrFun (follows text) page

theorem emitLine (text : Except TranspileError String) :
    Follows (Renderer.emitLine text) layout (.emitLine text) :=
  lift emit

theorem comp (firsts : Follows first layout a) (seconds : Follows second layout b) :
    Follows (first >=> second) layout (.seq a b) := by
  unfold Follows
  rw [outcome_comp, firsts, seconds]
  rfl

theorem emitAll (texts : List String) :
    Follows (Renderer.emitAll texts) layout (.emitAll texts) := by
  induction texts with
  | nil => rfl
  | cons text rest ih => exact (emit text).comp ih

theorem check (result : Except TranspileError Unit) :
    Follows (Renderer.check result) layout (.check result) := by
  unfold Follows
  rw [outcome_check]
  funext page
  cases result <;> rfl

/-- A check may also stand in front of a renderer. -/
theorem guarded (result : Except TranspileError Unit) (seconds : Follows second layout b) :
    Follows (fun page => do result; second page) layout (.seq (.check result) b) := by
  unfold Follows
  have lifted := outcome_lift result fun _ => second
  funext page
  refine (congrFun lifted page).trans ?_
  rw [seconds]
  cases result <;> rfl

theorem indented {target : Target} (bodies : Follows body target.layout inner) :
    Follows (target.indented body) target.layout (.indented inner) := by
  unfold Follows Target.indented
  rw [outcome_indented, bodies]
  rfl

theorem loopBody (target : Target) (bodies : Follows body target.layout inner) :
    Follows (target.loopBody body) target.layout (.loop inner) := by
  obtain ⟨game, table, loops, leave, leave_eq⟩ := target
  unfold Follows
  cases loops with
  | flat =>
      show outcome (Renderer.flattened leave body) = _
      rw [outcome_flattened, bodies]
      rfl
  | nested =>
      show outcome (Renderer.indented leave body) = _
      rw [outcome_indented, bodies]
      rfl

theorem whenEnabled (target : Target) (name : String) (bodies : Follows body layout inner) :
    Follows (target.whenEnabled name body) layout (.whenEnabled target.directives name inner) := by
  unfold Follows
  rw [Target.outcome_whenEnabled, Outline.whenEnabled]
  split
  · exact bodies
  · rfl

end Renderer.Follows

section Following

open Renderer (Follows)

variable (game : Game) (layout : Layout)

theorem follows_fieldAssignments (name : String) : ∀ fields : List FieldInit,
    Follows (fieldAssignments game name fields) layout (.fieldAssignments game name fields)
  | [] => .skip
  | .mk _ _ :: rest => .comp (.emitLine _) (follows_fieldAssignments name rest)

theorem follows_declaration (head name : String) (declared : Option TypeRef) (init : Option Expr)
    (suffix : String) :
    Follows (declaration game head name declared init suffix) layout
      (.declaration game head name declared init suffix) := by
  unfold declaration Outline.declaration
  cases init with
  | none => exact .emit _
  | some value =>
      cases value with
      | arrayInit elements => exact .comp (.emitLine _) (.emitAll _)
      | structInit fields => exact .comp (.emitLine _) (follows_fieldAssignments game layout name _)
      | _ => exact .emitLine _

theorem VariableDecl.follows_render (decl : VariableDecl) :
    Follows (decl.render game) layout (decl.outline game) :=
  .lift fun suffix => follows_declaration game layout _ _ _ _ suffix

theorem InferredVariable.follows_render (decl : InferredVariable) :
    Follows (decl.render game) layout (decl.outline game) :=
  .guarded _ (.lift fun suffix => follows_declaration game layout _ _ _ _ suffix)

theorem VariableDecl.follows_renderList (decls : List VariableDecl) :
    Follows (VariableDecl.renderList game decls) layout (VariableDecl.outlineList game decls) := by
  induction decls with
  | nil => exact .skip
  | cons decl rest ih => exact .comp (decl.follows_render game layout) ih

end Following

section Bodies

open Renderer (Follows)

variable (target : Target)

mutual

theorem Stmt.follows_render : ∀ stmt : Stmt,
    Follows (stmt.render target) target.layout (stmt.outline target.game target.directives)
  | .expr _ => .emitLine _
  | .ret none => .emit _
  | .ret (some _) => .emitLine _
  | .variable decl => decl.follows_render target.game target.layout
  | .inferred decl => decl.follows_render target.game target.layout
  | .ifElse _ body elseIfs elseBody =>
      .comp (.emitLine _) <| .comp (Stmt.follows_renderList body).indented <|
        .comp (Stmt.follows_renderElseIfs elseIfs) <|
        .comp (Stmt.follows_renderElse elseBody) <| .emit _
  | .while _ body =>
      .comp (.emitLine _) <| .comp (.loopBody target (Stmt.follows_renderList body)) <| .emit _
  | .range _ _ body =>
      .comp (.emit _) <| .comp (.emit _) <|
        .comp
          (Follows.comp (.emit _) <| .comp (Stmt.follows_renderList body) <| .emit _).indented <|
        .emit _
  | .switch _ [] default => .lift fun _ => Stmt.follows_renderOption default
  | .switch _ (.mk _ body :: cases) default =>
      .lift fun text => .comp (.emitLine _) <| .comp (Stmt.follows_renderList body).indented <|
        .comp (Stmt.follows_renderCases text cases) <|
        .comp (Stmt.follows_renderElse default) <| .emit _
  | .conditional name body => .whenEnabled target name (Stmt.follows_renderList body)

theorem Stmt.follows_renderList : ∀ body : List Stmt,
    Follows (Stmt.renderList target body) target.layout
      (Stmt.outlineList target.game target.directives body)
  | [] => .skip
  | stmt :: rest => .comp (Stmt.follows_render stmt) (Stmt.follows_renderList rest)

theorem Stmt.follows_renderOption : ∀ body : Option (List Stmt),
    Follows (Stmt.renderOption target body) target.layout
      (Stmt.outlineOption target.game target.directives body)
  | none => .skip
  | some body => Stmt.follows_renderList body

theorem Stmt.follows_renderElse : ∀ body : Option (List Stmt),
    Follows (Stmt.renderElse target body) target.layout
      (Stmt.outlineElse target.game target.directives body)
  | none => .skip
  | some body => .comp (.emit _) (Stmt.follows_renderList body).indented

theorem Stmt.follows_renderElseIfs : ∀ branches : List Branch,
    Follows (Stmt.renderElseIfs target branches) target.layout
      (Stmt.outlineElseIfs target.game target.directives branches)
  | [] => .skip
  | .mk _ body :: rest =>
      .comp (.emitLine _) <| .comp (Stmt.follows_renderList body).indented <|
        Stmt.follows_renderElseIfs rest

theorem Stmt.follows_renderCases (subject : String) : ∀ branches : List Branch,
    Follows (Stmt.renderCases target subject branches) target.layout
      (Stmt.outlineCases target.game target.directives subject branches)
  | [] => .skip
  | .mk _ body :: rest =>
      .comp (.emitLine _) <| .comp (Stmt.follows_renderList body).indented <|
        Stmt.follows_renderCases subject rest

end

theorem follows_renderAccessor (header : String) (body : Option (List Stmt)) :
    Follows (renderAccessor target header body) target.layout
      (.accessor target.game target.directives header body) := by
  cases body with
  | none => exact .skip
  | some body =>
      exact .comp (.emit _) <| .comp (Stmt.follows_renderList target body).indented <| .emit _

mutual

theorem Member.follows_render : ∀ member : Member,
    Follows (member.render target) target.layout (member.outline target.game target.directives)
  | .importScript _ => .emit _
  | .variable decl => decl.follows_render target.game target.layout
  | .inferred decl => decl.follows_render target.game target.layout
  | .autoProperty _ => .emitLine _
  | .fullProperty property =>
      .comp (.check _) <| .comp (.emit _) <|
        .comp (follows_renderAccessor target _ property.getter) <|
        .comp (follows_renderAccessor target _ property.setter) <| .emit _
  | .function decl =>
      .comp (.emitLine _) <| .comp (Stmt.follows_renderList target decl.body).indented <|
        .comp (.emit _) <| .emit _
  | .event decl =>
      .comp (.emitLine _) <| .comp (Stmt.follows_renderList target decl.body).indented <|
        .comp (.emit _) <| .emit _
  | .state _ _ members =>
      .comp (.emit _) <| .comp (Member.follows_renderList members).indented <| .emit _
  | .struct decl =>
      .comp (.check _) <| .comp (.emit _) <|
        .comp (VariableDecl.follows_renderList target.game target.layout decl.members).indented <|
        .emit _
  | .group _ _ members =>
      .comp (.check _) <| .comp (.emit _) <|
        .comp (Member.follows_renderList members).indented <| .emit _
  | .conditional name body => .whenEnabled target name (Member.follows_renderList body)

theorem Member.follows_renderList : ∀ members : List Member,
    Follows (Member.renderList target members) target.layout
      (Member.outlineList target.game target.directives members)
  | [] => .skip
  | member :: rest => .comp (Member.follows_render member) (Member.follows_renderList rest)

end

theorem Script.follows_render (script : Script) :
    Follows (script.render target) target.layout
      (script.outline target.game target.directives) :=
  .comp (.emitLine _) <| .comp (.emit _) <| Member.follows_renderList target script.members

end Bodies

end PapyrusWriter
