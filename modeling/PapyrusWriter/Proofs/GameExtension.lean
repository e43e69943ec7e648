import PapyrusWriter.Proofs.Outcome
/-!
# The extended game extends the baseline game

`Extends base full` compares what the two games make of the same thing: `full` does not fail for
want of a feature, and `base` is `full` unless it fails for want of one. The relation holds of each
gate and goes through sequences, where the first error wins in both games. So it holds of every
renderer, by recursion over the tree, and of `transpile` as a whole.
-/

namespace PapyrusWriter

set_option autoImplicit false

/-- The outcome `full` for the extended game, against the outcome `base` for the baseline game. -/
structure Extends {α : Type} (base full : Except TranspileError α) : Prop where
  supported : ∀ feature, full ≠ .error (.unsupported feature)
  agree : base = full ∨ ∃ feature, base = .error (.unsupported feature)

namespace Extends

variable {α β : Type}

theorem refl {result : Except TranspileError α}
    (supported : ∀ feature, result ≠ .error (.unsupported feature)) : Extends result result :=
  ⟨supported, .inl rfl⟩

theorem pure (a : α) : Extends (pure a : Except TranspileError α) (.ok a) :=
  refl fun _ => nofun

/-- Every gate is open in the extended game, and shut in the baseline game. -/
theorem require (feature : Feature) :
    Extends (Game.skyrimSE.require feature) (Game.fallout4.require feature) :=
  ⟨fun _ => nofun, .inr ⟨feature, rfl⟩⟩

theorem bind {base full : Except TranspileError α} {next next' : α → Except TranspileError β}
    (first : Extends base full) (rest : ∀ a, Extends (next a) (next' a)) :
    Extends (base >>= next) (full >>= next') := by
  obtain ⟨supported, rfl | ⟨feature, rfl⟩⟩ := first
  · cases base with
    | ok a => exact rest a
    | error error =>
        refine refl fun feature same => supported feature ?_
        cases same
        rfl
  · refine ⟨?_, .inr ⟨feature, rfl⟩⟩
    cases full with
    | ok a => exact (rest a).supported
    | error error =>
        intro feature same
        refine supported feature ?_
        cases same
        rfl

theorem requireIf (asked : Bool) (feature : Feature) :
    Extends (Game.skyrimSE.requireIf asked feature) (Game.fallout4.requireIf asked feature) := by
  cases asked with
  | false => exact pure ()
  | true => exact require feature

end Extends

/-! ## Expressions and headers -/

mutual

theorem Expr.extends_render : ∀ expr : Expr,
    Extends (expr.render .skyrimSE) (expr.render .fallout4)
  | .literal _ => .pure _
  | .name _ => .pure _
  | .binary lhs _ rhs =>
      (Expr.extends_render lhs).bind fun _ => (Expr.extends_render rhs).bind fun _ => .pure _
  | .not operand => (Expr.extends_render operand).bind fun _ => .pure _
  | .negate operand => (Expr.extends_render operand).bind fun _ => .pure _
  | .paren inner => (Expr.extends_render inner).bind fun _ => .pure _
  | .assign target _ value =>
      (Expr.extends_render target).bind fun _ => (Expr.extends_render value).bind fun _ => .pure _
  | .call _ args => (Expr.extends_renderList args).bind fun _ => .pure _
  | .index array position =>
      (Expr.extends_render array).bind fun _ => (Expr.extends_render position).bind fun _ => .pure _
  | .newArray _ size => (Expr.extends_render size).bind fun _ => .pure _
  | .newStruct _ => (Extends.require _).bind fun _ => .pure _
  | .arrayInit _ => .refl fun _ => nofun
  | .structInit _ =>
      (Extends.require _).bind fun _ => .refl fun _ => nofun
  | .cast operand _ => (Expr.extends_render operand).bind fun _ => .pure _
  | .is operand _ => (Expr.extends_render operand).bind fun _ => .pure _
  | .increment _ => .pure _
  | .decrement _ => .pure _

theorem Expr.extends_renderList : ∀ exprs : List Expr,
    Extends (Expr.renderList .skyrimSE exprs) (Expr.renderList .fallout4 exprs)
  | [] => .pure _
  | expr :: rest =>
      (Expr.extends_render expr).bind fun _ => (Expr.extends_renderList rest).bind fun _ => .pure _

end

theorem Expr.extends_keywordLine (keyword : String) (expr : Expr) :
    Extends (keywordLine .skyrimSE keyword expr) (keywordLine .fallout4 keyword expr) :=
  (Expr.extends_render expr).bind fun _ => .pure _

theorem Param.extends_render (param : Param) :
    Extends (param.render .skyrimSE) (param.render .fallout4) := by
  obtain ⟨type, name, default⟩ := param
  cases default with
  | none => exact .pure _
  | some value => exact (Expr.extends_render value).bind fun _ => .pure _

theorem Param.extends_renderList (params : List Param) :
    Extends (Param.renderList .skyrimSE params) (Param.renderList .fallout4 params) := by
  induction params with
  | nil => exact .pure _
  | cons param rest ih => exact param.extends_render.bind fun _ => ih.bind fun _ => .pure _

theorem extends_signature (name : Identifier) (params : List Param) :
    Extends (signature .skyrimSE name params) (signature .fallout4 name params) :=
  (Param.extends_renderList params).bind fun _ => .pure _

theorem FunctionDecl.extends_header (decl : FunctionDecl) :
    Extends (decl.header .skyrimSE) (decl.header .fallout4) :=
  (extends_signature decl.name decl.params).bind fun _ => .pure _

theorem AutoProperty.extends_valueText (property : AutoProperty) :
    Extends (property.valueText .skyrimSE) (property.valueText .fallout4) := by
  unfold AutoProperty.valueText
  cases property.init with
  | none => exact .pure _
  | some init => exact (Expr.extends_render init).bind fun _ => .pure _

theorem AutoProperty.extends_line (property : AutoProperty) :
    Extends (property.line .skyrimSE) (property.line .fallout4) := by
  rw [AutoProperty.line_eq, AutoProperty.line_eq]
  refine property.extends_valueText.bind fun value => ?_
  exact (Extends.requireIf _ _).bind fun _ => (Extends.requireIf _ _).bind fun _ => .pure _

theorem ScriptFlag.extends_check (flag : ScriptFlag) :
    Extends (flag.check .skyrimSE) (flag.check .fallout4) := by
  unfold ScriptFlag.check
  cases flag.feature? with
  | none => exact .pure _
  | some feature => exact .require feature

theorem ScriptFlag.extends_checkAll (flags : List ScriptFlag) :
    Extends (ScriptFlag.checkAll .skyrimSE flags) (ScriptFlag.checkAll .fallout4 flags) := by
  induction flags with
  | nil => exact .pure _
  | cons flag rest ih => exact flag.extends_check.bind fun _ => ih

/-! ## Renderers -/

/-- The renderer `full` for the extended game, against `base` for the baseline game. -/
def Renderer.ExtendedBy (base full : Renderer) : Prop :=
  ∀ page, Extends (Renderer.outcome base page) (Renderer.outcome full page)

namespace Renderer.ExtendedBy

variable {base base' full full' : Renderer}

theorem skip : ExtendedBy Renderer.skip Renderer.skip :=
  fun page => .pure page

theorem emit (text : String) : ExtendedBy (Renderer.emit text) (Renderer.emit text) :=
  fun page => .pure (page.emit text)

theorem emitAll (texts : List String) :
    ExtendedBy (Renderer.emitAll texts) (Renderer.emitAll texts) :=
  fun page => .pure (texts.foldl Page.emit page)

theorem lift {α : Type} {value value' : Except TranspileError α} {next next' : α → Renderer}
    (values : Extends value value') (rest : ∀ a, ExtendedBy (next a) (next' a)) :
    ExtendedBy (fun page => do next (← value) page) (fun page => do next' (← value') page) := by
  intro page
  rw [outcome_lift, outcome_lift]
  exact values.bind fun a => rest a page

theorem emitLine {text text' : Except TranspileError String} (texts : Extends text text') :
    ExtendedBy (Renderer.emitLine text) (Renderer.emitLine text') :=
  lift texts emit

theorem check {result result' : Except TranspileError Unit} (results : Extends result result') :
    ExtendedBy (Renderer.check result) (Renderer.check result') :=
  lift results fun _ => skip

theorem comp (first : ExtendedBy base full) (second : ExtendedBy base' full') :
    ExtendedBy (base >=> base') (full >=> full') := by
  intro page
  rw [outcome_comp, outcome_comp]
  exact (first page).bind second

variable {table : DirectiveTable}

theorem indented (body : ExtendedBy base full) :
    ExtendedBy (Target.indented ⟨.skyrimSE, table, .flat⟩ base)
      (Target.indented ⟨.fallout4, table, .flat⟩ full) := by
  intro page
  rw [Target.indented, Target.indented, outcome_indented, outcome_indented]
  exact (body page.enter).bind fun inner => .pure inner.exit

theorem loopBody (body : ExtendedBy base full) :
    ExtendedBy (Target.loopBody ⟨.skyrimSE, table, .flat⟩ base)
      (Target.loopBody ⟨.fallout4, table, .flat⟩ full) := by
  intro page
  show Extends (outcome (Renderer.flattened _ _) page) (outcome (Renderer.flattened _ _) page)
  rw [outcome_flattened, outcome_flattened]
  exact (body Page.blank).bind fun _ => .pure (Page.exit _)

theorem whenEnabled (name : String) (body : ExtendedBy base full) :
    ExtendedBy (Target.whenEnabled ⟨.skyrimSE, table, .flat⟩ name base)
      (Target.whenEnabled ⟨.fallout4, table, .flat⟩ name full) := by
  unfold Target.whenEnabled
  cases table.isEnabled name with
  | false => exact .skip
  | true => exact body

end Renderer.ExtendedBy

open Renderer (ExtendedBy)

theorem extendedBy_fieldAssignments (name : String) : ∀ fields : List FieldInit,
    ExtendedBy (fieldAssignments .skyrimSE name fields) (fieldAssignments .fallout4 name fields)
  | [] => .skip
  | .mk _ value :: rest =>
      .comp (.emitLine ((Expr.extends_render value).bind fun _ => .pure _))
        (extendedBy_fieldAssignments name rest)

/-- The type of an initializer does not depend on the game. -/
theorem extends_arrayElementType (name : String) (declared : Option TypeRef)
    (elements : List Literal) :
    Extends (arrayElementType name declared elements) (arrayElementType name declared elements) := by
  refine .refl fun feature => ?_
  unfold arrayElementType
  repeat' split
  all_goals simp

theorem extends_structInitType (name : String) (declared : Option TypeRef) :
    Extends (structInitType name declared) (structInitType name declared) := by
  refine .refl fun feature => ?_
  unfold structInitType
  repeat' split
  all_goals simp

theorem extendedBy_declaration (head name : String) (declared : Option TypeRef)
    (init : Option Expr) (suffix : String) :
    ExtendedBy (declaration .skyrimSE head name declared init suffix)
      (declaration .fallout4 head name declared init suffix) := by
  unfold declaration
  split
  · exact .emit _
  · refine .comp (.emitLine ?_) (.emitAll _)
    exact (extends_arrayElementType name declared _).bind fun _ => .pure _
  · refine .comp (.emitLine ?_) (extendedBy_fieldAssignments name _)
    exact (Extends.require _).bind fun _ =>
      (extends_structInitType name declared).bind fun _ => .pure _
  · exact .emitLine ((Expr.extends_render _).bind fun _ => .pure _)

theorem extends_declarationSuffix (constant conditional : Bool) :
    Extends (declarationSuffix .skyrimSE constant conditional)
      (declarationSuffix .fallout4 constant conditional) := by
  rw [declarationSuffix_eq, declarationSuffix_eq]
  exact (Extends.requireIf _ _).bind fun _ => .pure _

theorem VariableDecl.extendedBy_render (decl : VariableDecl) :
    ExtendedBy (decl.render .skyrimSE) (decl.render .fallout4) :=
  .lift (extends_declarationSuffix _ _) fun suffix => extendedBy_declaration _ _ _ _ suffix

theorem VariableDecl.extendedBy_renderList (decls : List VariableDecl) :
    ExtendedBy (VariableDecl.renderList .skyrimSE decls)
      (VariableDecl.renderList .fallout4 decls) := by
  induction decls with
  | nil => exact .skip
  | cons decl rest ih => exact .comp decl.extendedBy_render ih

theorem InferredVariable.extendedBy_render (decl : InferredVariable) :
    ExtendedBy (decl.render .skyrimSE) (decl.render .fallout4) :=
  .lift (.require _) fun _ =>
    .lift (extends_declarationSuffix _ _) fun suffix => extendedBy_declaration _ _ _ _ suffix

section Bodies

variable (table : DirectiveTable)

mutual

theorem Stmt.extendedBy_render : ∀ stmt : Stmt,
    ExtendedBy (stmt.render ⟨.skyrimSE, table, .flat⟩) (stmt.render ⟨.fallout4, table, .flat⟩)
  | .expr inner => .emitLine (Expr.extends_render inner)
  | .ret none => .emit _
  | .ret (some value) => .emitLine (Expr.extends_keywordLine _ value)
  | .variable decl => decl.extendedBy_render
  | .inferred decl => decl.extendedBy_render
  | .ifElse condition body elseIfs elseBody =>
      .comp (.emitLine (Expr.extends_keywordLine _ condition)) <|
        .comp (Stmt.extendedBy_renderList body).indented <|
        .comp (Stmt.extendedBy_renderElseIfs elseIfs) <|
        .comp (Stmt.extendedBy_renderElse elseBody) <| .emit _
  | .while condition body =>
      .comp (.emitLine (Expr.extends_keywordLine _ condition)) <|
        .comp (.loopBody (Stmt.extendedBy_renderList body)) <| .emit _
  | .range _ _ body =>
      .comp (.emit _) <| .comp (.emit _) <|
        .comp (.indented <| .comp (.emit _) <| .comp (Stmt.extendedBy_renderList body) <| .emit _) <|
        .emit _
  | .switch subject [] default =>
      .lift (Expr.extends_render subject) fun _ => Stmt.extendedBy_renderOption default
  | .switch subject (.mk guard body :: cases) default =>
      .lift (Expr.extends_render subject) fun text =>
        .comp (.emitLine (Expr.extends_keywordLine _ guard)) <|
        .comp (Stmt.extendedBy_renderList body).indented <|
        .comp (Stmt.extendedBy_renderCases text cases) <|
        .comp (Stmt.extendedBy_renderElse default) <| .emit _
  | .conditional name body =>
      .whenEnabled name (Stmt.extendedBy_renderList body)

theorem Stmt.extendedBy_renderList : ∀ body : List Stmt,
    ExtendedBy (Stmt.renderList ⟨.skyrimSE, table, .flat⟩ body)
      (Stmt.renderList ⟨.fallout4, table, .flat⟩ body)
  | [] => .skip
  | stmt :: rest => .comp (Stmt.extendedBy_render stmt) (Stmt.extendedBy_renderList rest)

theorem Stmt.extendedBy_renderOption : ∀ body : Option (List Stmt),
    ExtendedBy (Stmt.renderOption ⟨.skyrimSE, table, .flat⟩ body)
      (Stmt.renderOption ⟨.fallout4, table, .flat⟩ body)
  | none => .skip
  | some body => Stmt.extendedBy_renderList body

theorem Stmt.extendedBy_renderElse : ∀ body : Option (List Stmt),
    ExtendedBy (Stmt.renderElse ⟨.skyrimSE, table, .flat⟩ body)
      (Stmt.renderElse ⟨.fallout4, table, .flat⟩ body)
  | none => .skip
  | some body => .comp (.emit _) (Stmt.extendedBy_renderList body).indented

theorem Stmt.extendedBy_renderElseIfs : ∀ branches : List Branch,
    ExtendedBy (Stmt.renderElseIfs ⟨.skyrimSE, table, .flat⟩ branches)
      (Stmt.renderElseIfs ⟨.fallout4, table, .flat⟩ branches)
  | [] => .skip
  | .mk guard body :: rest =>
      .comp (.emitLine (Expr.extends_keywordLine _ guard)) <|
        .comp (Stmt.extendedBy_renderList body).indented <| Stmt.extendedBy_renderElseIfs rest

theorem Stmt.extendedBy_renderCases (subject : String) : ∀ branches : List Branch,
    ExtendedBy (Stmt.renderCases ⟨.skyrimSE, table, .flat⟩ subject branches)
      (Stmt.renderCases ⟨.fallout4, table, .flat⟩ subject branches)
  | [] => .skip
  | .mk guard body :: rest =>
      .comp (.emitLine (Expr.extends_keywordLine _ guard)) <|
        .comp (Stmt.extendedBy_renderList body).indented <|
        Stmt.extendedBy_renderCases subject rest

end

theorem extendedBy_renderAccessor (header : String) (body : Option (List Stmt)) :
    ExtendedBy (renderAccessor ⟨.skyrimSE, table, .flat⟩ header body)
      (renderAccessor ⟨.fallout4, table, .flat⟩ header body) := by
  cases body with
  | none => exact .skip
  | some body =>
      exact .comp (.emit _) <|
        .comp (Stmt.extendedBy_renderList table body).indented <| .emit _

/-- The checks of a property do not depend on the game. -/
theorem FullProperty.extends_check (property : FullProperty) :
    Extends property.check property.check := by
  refine .refl fun feature => ?_
  unfold FullProperty.check
  repeat' split
  all_goals simp

mutual

theorem Member.extendedBy_render : ∀ member : Member,
    ExtendedBy (member.render ⟨.skyrimSE, table, .flat⟩)
      (member.render ⟨.fallout4, table, .flat⟩)
  | .importScript _ => .emit _
  | .variable decl => decl.extendedBy_render
  | .inferred decl => decl.extendedBy_render
  | .autoProperty property => .emitLine property.extends_line
  | .fullProperty property =>
      .comp (.check property.extends_check) <| .comp (.emit _) <|
        .comp (extendedBy_renderAccessor table _ property.getter) <|
        .comp (extendedBy_renderAccessor table _ property.setter) <| .emit _
  | .function decl =>
      .comp (.emitLine decl.extends_header) <|
        .comp (Stmt.extendedBy_renderList table decl.body).indented <|
        .comp (.emit _) <| .emit _
  | .event decl =>
      .comp (.emitLine ((extends_signature decl.name decl.params).bind fun _ => .pure _)) <|
        .comp (Stmt.extendedBy_renderList table decl.body).indented <|
        .comp (.emit _) <| .emit _
  | .state _ _ members =>
      .comp (.emit _) <| .comp (Member.extendedBy_renderList members).indented <| .emit _
  | .struct decl =>
      .comp (.check (.require _)) <| .comp (.emit _) <|
        .comp (VariableDecl.extendedBy_renderList decl.members).indented <| .emit _
  | .group _ _ members =>
      .comp (.check (.require _)) <| .comp (.emit _) <|
        .comp (Member.extendedBy_renderList members).indented <| .emit _
  | .conditional name body =>
      .whenEnabled name (Member.extendedBy_renderList body)

theorem Member.extendedBy_renderList : ∀ members : List Member,
    ExtendedBy (Member.renderList ⟨.skyrimSE, table, .flat⟩ members)
      (Member.renderList ⟨.fallout4, table, .flat⟩ members)
  | [] => .skip
  | member :: rest => .comp (Member.extendedBy_render member) (Member.extendedBy_renderList rest)

end

theorem Script.extendedBy_render (script : Script) :
    ExtendedBy (script.render ⟨.skyrimSE, table, .flat⟩)
      (script.render ⟨.fallout4, table, .flat⟩) :=
  .comp (.emitLine ((ScriptFlag.extends_checkAll script.flags).bind fun _ => .pure _)) <|
    .comp (.emit _) <| Member.extendedBy_renderList table script.members

end Bodies

theorem Script.extends_generate (table : DirectiveTable) (script : Script) :
    Extends (script.generate .skyrimSE table).result (script.generate .fallout4 table).result := by
  rw [Script.generate_result, Script.generate_result, ← bind_pure_comp, ← bind_pure_comp]
  exact (script.extendedBy_render table Page.blank).bind fun _ => .pure _

/-! ## The whole run -/

theorem readInclude_supported (read : FileReader) (root path : String) (feature : Feature) :
    (readInclude read root path).result ≠ .error (.unsupported feature) := by
  dsimp only [readInclude]
  split
  · exact nofun
  · exact nofun
  · exact nofun

theorem takeDirectives_supported (read : FileReader) (root : String) (feature : Feature) :
    ∀ (directives : List Directive) (state : Preprocessed),
      (takeDirectives read root directives state).result ≠ .error (.unsupported feature)
  | [], _ => nofun
  | .define name value :: rest, state => by
      rw [takeDirectives]
      exact takeDirectives_supported read root feature rest _
  | .includeFile path :: rest, state => by
      rw [takeDirectives, Logged.result_bind]
      cases found : (readInclude read root path).result with
      | error error =>
          intro same
          cases same
          exact readInclude_supported read root path feature found
      | ok text => exact takeDirectives_supported read root feature rest _

theorem SyntaxTree.extends_transpile (read : FileReader) (root : String)
    (defines : List (String × String)) (tree : SyntaxTree) :
    Extends (tree.transpile read ⟨Game.skyrimSE.name, root, defines⟩).result
      (tree.transpile read ⟨Game.fallout4.name, root, defines⟩).result := by
  rw [SyntaxTree.transpile_result_of_name, SyntaxTree.transpile_result_of_name]
  refine Extends.bind (.refl fun feature => ?_) fun state =>
    (tree.script.extends_generate state.table).bind fun _ => .pure _
  exact takeDirectives_supported read root feature tree.directives _

/-- The extended game never lacks a feature, and the baseline game gives the result of the extended
game unless it lacks one, which is then a feature of the extended game. So what is transpiled for
the baseline game is transpiled to the same for the extended game. -/
theorem SyntaxTree.transpile_conservative (read : FileReader) (root : String)
    (defines : List (String × String)) (tree : SyntaxTree) :
    let base := (tree.transpile read ⟨"SkyrimSE", root, defines⟩).result
    let full := (tree.transpile read ⟨"FO4", root, defines⟩).result
    (∀ feature, full ≠ .error (.unsupported feature)) ∧
      (base = full ∨
        ∃ feature, base = .error (.unsupported feature) ∧ feature.requiredGame = .fallout4) ∧
      ∀ result, base = .ok result → full = .ok result := by
  intro base full
  obtain ⟨supported, agree⟩ := tree.extends_transpile read root defines
  refine ⟨supported, ?_, ?_⟩
  · rcases agree with same | ⟨feature, refused⟩
    · exact .inl same
    · exact .inr ⟨feature, refused, rfl⟩
  · intro result transpiled
    rcases agree with same | ⟨feature, refused⟩
    · exact same.symm.trans transpiled
    · exact absurd (refused.symm.trans transpiled) nofun

end PapyrusWriter
