import PapyrusWriter.Proofs.Outline
import PapyrusWriter.Tree.Identifiers
/-!
# The names in errors

An error's message is fixed but for what it mentions: the name of a game, the path of a file, or the
name of a property or a variable (`TranspileError.mentions`). While a script is rendered, only
properties and variables are mentioned, so whatever holds of all identifiers of the script holds of
the mentioned ones (`Script.blames_generate`).

The property goes through sequences, where the first error wins. So it is shown of each value that
an outline needs, and then holds of the rendering that follows the outline (`Outline.Blames.run`).
-/

namespace PapyrusWriter

set_option autoImplicit false

/-- The names that the message of a fault holds. -/
def InitializerFault.mentions : InitializerFault → List String
  | .misplacedArray | .misplacedStruct => []
  | .arrayForScalar name | .untypedArray name | .structForArray name | .untypedStruct name => [name]

/-- The texts that are not fixed in the message of an error. -/
def TranspileError.mentions : TranspileError → List String
  | .unknownGame name => [name]
  | .unsupported _ => []
  | .includeNotFound path | .includeUnreadable path _ => [path]
  | .malformedProperty name _ => [name]
  | .malformedInitializer fault => fault.mentions

/-- The error, if there is one, mentions known identifiers only. -/
def Blames {α : Type} (known : Identifier → Prop) (result : Except TranspileError α) : Prop :=
  ∀ error, result = .error error →
    ∀ text ∈ error.mentions, ∃ name, known name ∧ text = name.normalized

namespace Blames

variable {α β : Type} {known : Identifier → Prop}

theorem pure (a : α) : Blames known (pure a : Except TranspileError α) := by
  intro error failed
  cases failed

theorem error {error : TranspileError} (silent : error.mentions = []) :
    Blames known (.error error : Except TranspileError α) := by
  rintro _ ⟨⟩ text among
  rw [silent] at among
  cases among

theorem mention {error : TranspileError} {name : Identifier} (named : known name)
    (only : error.mentions = [name.normalized]) :
    Blames known (.error error : Except TranspileError α) := by
  rintro _ ⟨⟩ text among
  rw [only, List.mem_singleton] at among
  exact ⟨name, named, among⟩

theorem bind {result : Except TranspileError α} {next : α → Except TranspileError β}
    (first : Blames known result) (rest : ∀ a, Blames known (next a)) :
    Blames known (result >>= next) := by
  cases result with
  | ok a => exact rest a
  | error cause =>
      rintro _ ⟨⟩
      exact first cause rfl

theorem map {result : Except TranspileError α} (f : α → β) (blames : Blames known result) :
    Blames known (f <$> result) := by
  cases result with
  | ok a => exact pure (f a)
  | error cause =>
      rintro _ ⟨⟩
      exact blames cause rfl

theorem require (game : Game) (feature : Feature) : Blames known (game.require feature) := by
  unfold Game.require
  split
  · exact pure ()
  · exact error rfl

theorem requireIf (game : Game) (asked : Bool) (feature : Feature) :
    Blames known (game.requireIf asked feature) := by
  cases asked with
  | false => exact pure ()
  | true => exact require game feature

end Blames

/-- Whatever the outline needs fails with known identifiers only. -/
inductive Outline.Blames (known : Identifier → Prop) : Outline → Prop
  | skip : Blames known .skip
  | emit (text : String) : Blames known (.emit text)
  | need {value : Except TranspileError String} {next : String → Outline}
      (values : PapyrusWriter.Blames known value) (rest : ∀ text, Blames known (next text)) :
      Blames known (.need value next)
  | seq {first second : Outline} (firsts : Blames known first) (seconds : Blames known second) :
      Blames known (.seq first second)
  | indented {body : Outline} (bodies : Blames known body) : Blames known (.indented body)
  | loop {body : Outline} (bodies : Blames known body) : Blames known (.loop body)

namespace Outline.Blames

variable {known : Identifier → Prop}

theorem run {outline : Outline} (blames : outline.Blames known) (page : Page) :
    PapyrusWriter.Blames known (outline.run .flat page) := by
  induction blames generalizing page with
  | skip => exact .pure page
  | emit text => exact .pure (page.emit text)
  | need values _ ih => exact values.bind fun text => ih text page
  | seq _ _ firsts seconds => exact (firsts page).bind seconds
  | indented _ ih => exact (ih page.enter).bind fun inner => .pure inner.exit
  | loop _ ih => exact (ih Page.blank).bind fun inner => .pure (Page.exit _)

theorem emitLine {text : Except TranspileError String} (blames : PapyrusWriter.Blames known text) :
    (Outline.emitLine text).Blames known :=
  .need blames .emit

theorem emitAll : ∀ texts : List String, (Outline.emitAll texts).Blames known
  | [] => .skip
  | text :: rest => .seq (.emit text) (emitAll rest)

theorem check {result : Except TranspileError Unit} (blames : PapyrusWriter.Blames known result) :
    (Outline.check result).Blames known :=
  .need (blames.bind fun _ => .pure "") fun _ => .skip

theorem whenEnabled {table : DirectiveTable} {name : String} {body : Outline}
    (bodies : body.Blames known) : (Outline.whenEnabled table name body).Blames known := by
  unfold Outline.whenEnabled
  split
  · exact bodies
  · exact .skip

end Outline.Blames

section Trees

variable {known : Identifier → Prop} (game : Game)

/-! ## Expressions and headers -/

mutual

/-- No expression fails for its names. -/
theorem Expr.blames_render : ∀ expr : Expr, Blames known (expr.render game)
  | .literal _ => .pure _
  | .name _ => .pure _
  | .binary lhs _ rhs =>
      (Expr.blames_render lhs).bind fun _ => (Expr.blames_render rhs).bind fun _ => .pure _
  | .not operand => (Expr.blames_render operand).bind fun _ => .pure _
  | .negate operand => (Expr.blames_render operand).bind fun _ => .pure _
  | .paren inner => (Expr.blames_render inner).bind fun _ => .pure _
  | .assign target _ value =>
      (Expr.blames_render target).bind fun _ => (Expr.blames_render value).bind fun _ => .pure _
  | .call _ args => (Expr.blames_renderList args).bind fun _ => .pure _
  | .index array position =>
      (Expr.blames_render array).bind fun _ => (Expr.blames_render position).bind fun _ => .pure _
  | .newArray _ size => (Expr.blames_render size).bind fun _ => .pure _
  | .newStruct _ => (Blames.require game _).bind fun _ => .pure _
  | .arrayInit _ => .error rfl
  | .structInit _ => (Blames.require game _).bind fun _ => .error rfl
  | .cast operand _ => (Expr.blames_render operand).bind fun _ => .pure _
  | .is operand _ => (Expr.blames_render operand).bind fun _ => .pure _
  | .increment _ => .pure _
  | .decrement _ => .pure _

theorem Expr.blames_renderList : ∀ exprs : List Expr, Blames known (Expr.renderList game exprs)
  | [] => .pure _
  | expr :: rest =>
      (Expr.blames_render expr).bind fun _ => (Expr.blames_renderList rest).bind fun _ => .pure _

end

theorem blames_keywordLine (keyword : String) (expr : Expr) :
    Blames known (keywordLine game keyword expr) :=
  (expr.blames_render game).bind fun _ => .pure _

theorem blames_declarationSuffix (constant conditional : Bool) :
    Blames known (declarationSuffix game constant conditional) := by
  rw [declarationSuffix_eq]
  exact (Blames.requireIf game _ _).bind fun _ => .pure _

theorem Param.blames_renderList : ∀ params : List Param, Blames known (Param.renderList game params)
  | [] => .pure _
  | ⟨type, name, default⟩ :: rest => by
      have first : Blames known (Param.render game ⟨type, name, default⟩) := by
        cases default with
        | none => exact .pure _
        | some value => exact (value.blames_render game).bind fun _ => .pure _
      exact first.bind fun _ => (Param.blames_renderList rest).bind fun _ => .pure _

theorem blames_signature (name : Identifier) (params : List Param) :
    Blames known (signature game name params) :=
  (Param.blames_renderList game params).bind fun _ => .pure _

theorem AutoProperty.blames_line (property : AutoProperty) : Blames known (property.line game) := by
  have value : Blames known (property.valueText game) := by
    unfold AutoProperty.valueText
    cases property.init with
    | none => exact .pure _
    | some init => exact (init.blames_render game).bind fun _ => .pure _
  rw [AutoProperty.line_eq]
  exact value.bind fun _ => (Blames.requireIf game _ _).bind fun _ =>
    (Blames.requireIf game _ _).bind fun _ => .pure _

theorem ScriptFlag.blames_checkAll : ∀ flags : List ScriptFlag,
    Blames known (ScriptFlag.checkAll game flags)
  | [] => .pure ()
  | flag :: rest => by
      have first : Blames known (flag.check game) := by
        unfold ScriptFlag.check
        cases flag.feature? with
        | none => exact .pure ()
        | some feature => exact .require game feature
      exact first.bind fun _ => ScriptFlag.blames_checkAll rest

theorem Script.blames_header (script : Script) : Blames known (script.header game) :=
  (ScriptFlag.blames_checkAll game script.flags).bind fun _ => .pure _

/-! ## Declarations -/

section Declarations

variable {name : Identifier} (named : known name)

include named

theorem blames_arrayElementType (declared : Option TypeRef) (elements : List Literal) :
    Blames known (arrayElementType name.normalized declared elements) := by
  unfold arrayElementType
  split
  · split
    · exact .pure _
    · exact .mention named rfl
  · split
    · exact .pure _
    · exact .mention named rfl

theorem blames_structInitType (declared : Option TypeRef) :
    Blames known (structInitType name.normalized declared) := by
  unfold structInitType
  split
  · split
    · exact .mention named rfl
    · exact .pure _
  · exact .mention named rfl

theorem Outline.blames_declaration (head : String) (declared : Option TypeRef)
    (init : Option Expr) (suffix : String) :
    (Outline.declaration game head name.normalized declared init suffix).Blames known := by
  have fields : ∀ inits : List FieldInit,
      (Outline.fieldAssignments game name.normalized inits).Blames known := by
    intro inits
    induction inits with
    | nil => exact .skip
    | cons init rest ih =>
        obtain ⟨field, value⟩ := init
        exact .seq (.emitLine ((value.blames_render game).bind fun _ => .pure _)) ih
  cases init with
  | none => exact .emit _
  | some value =>
      cases value with
      | arrayInit elements =>
          refine .seq (.emitLine ?_) (.emitAll _)
          exact (blames_arrayElementType named declared elements).bind fun _ => .pure _
      | structInit inits =>
          refine .seq (.emitLine ?_) (fields inits)
          refine (Blames.require game _).bind fun _ => ?_
          exact (blames_structInitType named declared).bind fun _ => .pure _
      | _ => exact .emitLine ((Expr.blames_render game _).bind fun _ => .pure _)

end Declarations

theorem VariableDecl.blames_outline (decl : VariableDecl)
    (names : ∀ occurrence ∈ decl.occurrences, known occurrence.name) :
    (decl.outline game).Blames known := by
  obtain ⟨-, rest⟩ := List.forall_mem_append.mp names
  obtain ⟨named, -⟩ := List.forall_mem_cons.mp rest
  exact .need (blames_declarationSuffix game _ _) fun suffix =>
    Outline.blames_declaration game named _ _ _ suffix

theorem InferredVariable.blames_outline (decl : InferredVariable)
    (names : ∀ occurrence ∈ decl.occurrences, known occurrence.name) :
    (decl.outline game).Blames known := by
  obtain ⟨named, -⟩ := List.forall_mem_cons.mp names
  exact .seq (.check (.require game _)) <|
    .need (blames_declarationSuffix game _ _) fun suffix =>
      Outline.blames_declaration game named _ _ _ suffix

theorem VariableDecl.blames_outlineList : ∀ decls : List VariableDecl,
    (∀ occurrence ∈ decls.flatMap VariableDecl.occurrences, known occurrence.name) →
    (VariableDecl.outlineList game decls).Blames known
  | [], _ => .skip
  | decl :: rest, names => by
      rw [List.flatMap_cons] at names
      obtain ⟨first, others⟩ := List.forall_mem_append.mp names
      exact .seq (decl.blames_outline game first) (blames_outlineList rest others)

/-! ## Statements and members -/

variable (table : DirectiveTable)

mutual

theorem Stmt.blames_outline : ∀ stmt : Stmt,
    (∀ occurrence ∈ stmt.occurrences, known occurrence.name) →
    (stmt.outline game table).Blames known
  | .expr inner, _ => .emitLine (inner.blames_render game)
  | .ret none, _ => .emit _
  | .ret (some value), _ => .emitLine (blames_keywordLine game _ value)
  | .variable decl, names => decl.blames_outline game names
  | .inferred decl, names => decl.blames_outline game names
  | .ifElse condition body elseIfs elseBody, names => by
      obtain ⟨rest, last⟩ := List.forall_mem_append.mp names
      obtain ⟨rest, chain⟩ := List.forall_mem_append.mp rest
      obtain ⟨-, bodies⟩ := List.forall_mem_append.mp rest
      exact .seq (.emitLine (blames_keywordLine game _ condition)) <|
        .seq (.indented (Stmt.blames_outlineList body bodies)) <|
        .seq (Stmt.blames_outlineElseIfs elseIfs chain) <|
        .seq (Stmt.blames_outlineElse elseBody last) <| .emit _
  | .while condition body, names => by
      obtain ⟨-, bodies⟩ := List.forall_mem_append.mp names
      exact .seq (.emitLine (blames_keywordLine game _ condition)) <|
        .seq (.loop (Stmt.blames_outlineList body bodies)) <| .emit _
  | .range _ _ body, names => by
      obtain ⟨-, rest⟩ := List.forall_mem_cons.mp names
      obtain ⟨-, bodies⟩ := List.forall_mem_cons.mp rest
      exact .seq (.emit _) <| .seq (.emit _) <|
        .seq (.indented <| .seq (.emit _) <| .seq (Stmt.blames_outlineList body bodies) <|
          .emit _) <| .emit _
  | .switch subject [] default, names => by
      obtain ⟨-, last⟩ := List.forall_mem_append.mp names
      exact .need (subject.blames_render game) fun _ => Stmt.blames_outlineOption default last
  | .switch subject (.mk guard body :: cases) default, names => by
      obtain ⟨rest, last⟩ := List.forall_mem_append.mp names
      obtain ⟨-, branches⟩ := List.forall_mem_append.mp rest
      obtain ⟨first, chain⟩ := List.forall_mem_append.mp branches
      obtain ⟨-, bodies⟩ := List.forall_mem_append.mp first
      exact .need (subject.blames_render game) fun text =>
        .seq (.emitLine (blames_keywordLine game _ guard)) <|
        .seq (.indented (Stmt.blames_outlineList body bodies)) <|
        .seq (Stmt.blames_outlineCases text cases chain) <|
        .seq (Stmt.blames_outlineElse default last) <| .emit _
  | .conditional _ body, names => .whenEnabled (Stmt.blames_outlineList body names)

theorem Stmt.blames_outlineList : ∀ body : List Stmt,
    (∀ occurrence ∈ Stmt.listOccurrences body, known occurrence.name) →
    (Stmt.outlineList game table body).Blames known
  | [], _ => .skip
  | stmt :: rest, names => by
      obtain ⟨first, others⟩ := List.forall_mem_append.mp names
      exact .seq (Stmt.blames_outline stmt first) (Stmt.blames_outlineList rest others)

theorem Stmt.blames_outlineOption : ∀ body : Option (List Stmt),
    (∀ occurrence ∈ Stmt.optionOccurrences body, known occurrence.name) →
    (Stmt.outlineOption game table body).Blames known
  | none, _ => .skip
  | some body, names => Stmt.blames_outlineList body names

theorem Stmt.blames_outlineElse : ∀ body : Option (List Stmt),
    (∀ occurrence ∈ Stmt.optionOccurrences body, known occurrence.name) →
    (Stmt.outlineElse game table body).Blames known
  | none, _ => .skip
  | some body, names => .seq (.emit _) (.indented (Stmt.blames_outlineList body names))

theorem Stmt.blames_outlineElseIfs : ∀ branches : List Branch,
    (∀ occurrence ∈ Stmt.branchOccurrences branches, known occurrence.name) →
    (Stmt.outlineElseIfs game table branches).Blames known
  | [], _ => .skip
  | .mk guard body :: rest, names => by
      obtain ⟨first, others⟩ := List.forall_mem_append.mp names
      obtain ⟨-, bodies⟩ := List.forall_mem_append.mp first
      exact .seq (.emitLine (blames_keywordLine game _ guard)) <|
        .seq (.indented (Stmt.blames_outlineList body bodies)) <|
        Stmt.blames_outlineElseIfs rest others

theorem Stmt.blames_outlineCases (subject : String) : ∀ branches : List Branch,
    (∀ occurrence ∈ Stmt.branchOccurrences branches, known occurrence.name) →
    (Stmt.outlineCases game table subject branches).Blames known
  | [], _ => .skip
  | .mk guard body :: rest, names => by
      obtain ⟨first, others⟩ := List.forall_mem_append.mp names
      obtain ⟨-, bodies⟩ := List.forall_mem_append.mp first
      exact .seq (.emitLine (blames_keywordLine game _ guard)) <|
        .seq (.indented (Stmt.blames_outlineList body bodies)) <|
        Stmt.blames_outlineCases subject rest others

end

theorem Outline.blames_accessor (header : String) {body : Option (List Stmt)}
    (names : ∀ occurrence ∈ Stmt.optionOccurrences body, known occurrence.name) :
    (Outline.accessor game table header body).Blames known := by
  cases body with
  | none => exact .skip
  | some body =>
      exact .seq (.emit _) <| .seq (.indented (Stmt.blames_outlineList game table body names)) <|
        .emit _

theorem FullProperty.blames_outline (property : FullProperty)
    (names : ∀ occurrence ∈ (Member.fullProperty property).occurrences, known occurrence.name) :
    (property.outline game table).Blames known := by
  obtain ⟨-, rest⟩ := List.forall_mem_append.mp names
  obtain ⟨named, accessors⟩ := List.forall_mem_cons.mp rest
  obtain ⟨getters, setters⟩ := List.forall_mem_append.mp accessors
  have checked : Blames known property.check := by
    unfold FullProperty.check
    split
    · exact .mention named rfl
    · split
      · exact .mention named rfl
      · exact .pure ()
  exact .seq (.check checked) <| .seq (.emit _) <|
    .seq (Outline.blames_accessor game table _ getters) <|
    .seq (Outline.blames_accessor game table _ setters) <| .emit _

mutual

theorem Member.blames_outline : ∀ member : Member,
    (∀ occurrence ∈ member.occurrences, known occurrence.name) →
    (member.outline game table).Blames known
  | .importScript _, _ => .emit _
  | .variable decl, names => decl.blames_outline game names
  | .inferred decl, names => decl.blames_outline game names
  | .autoProperty property, _ => .emitLine (property.blames_line game)
  | .fullProperty property, names => property.blames_outline game table names
  | .function decl, names => by
      obtain ⟨-, rest⟩ := List.forall_mem_append.mp names
      obtain ⟨-, rest⟩ := List.forall_mem_cons.mp rest
      obtain ⟨-, bodies⟩ := List.forall_mem_append.mp rest
      exact .seq (.emitLine ((blames_signature game _ _).bind fun _ => .pure _)) <|
        .seq (.indented (Stmt.blames_outlineList game table decl.body bodies)) <|
        .seq (.emit _) <| .emit _
  | .event decl, names => by
      obtain ⟨-, rest⟩ := List.forall_mem_cons.mp names
      obtain ⟨-, bodies⟩ := List.forall_mem_append.mp rest
      exact .seq (.emitLine ((blames_signature game _ _).bind fun _ => .pure _)) <|
        .seq (.indented (Stmt.blames_outlineList game table decl.body bodies)) <|
        .seq (.emit _) <| .emit _
  | .state _ _ members, names => by
      obtain ⟨-, inner⟩ := List.forall_mem_cons.mp names
      exact .seq (.emit _) <| .seq (.indented (Member.blames_outlineList members inner)) <| .emit _
  | .struct decl, names => by
      obtain ⟨-, inner⟩ := List.forall_mem_cons.mp names
      exact .seq (.check (.require game _)) <| .seq (.emit _) <|
        .seq (.indented (VariableDecl.blames_outlineList game decl.members inner)) <| .emit _
  | .group _ _ members, names => by
      obtain ⟨-, inner⟩ := List.forall_mem_cons.mp names
      exact .seq (.check (.require game _)) <| .seq (.emit _) <|
        .seq (.indented (Member.blames_outlineList members inner)) <| .emit _
  | .conditional _ body, names => .whenEnabled (Member.blames_outlineList body names)

theorem Member.blames_outlineList : ∀ members : List Member,
    (∀ occurrence ∈ Member.listOccurrences members, known occurrence.name) →
    (Member.outlineList game table members).Blames known
  | [], _ => .skip
  | member :: rest, names => by
      obtain ⟨first, others⟩ := List.forall_mem_append.mp names
      exact .seq (Member.blames_outline member first) (Member.blames_outlineList rest others)

end

/-- What a script fails with mentions identifiers of the script only. -/
theorem Script.blames_generate (script : Script)
    (names : ∀ occurrence ∈ script.occurrences, known occurrence.name) :
    Blames known (script.generate game table).result := by
  obtain ⟨-, rest⟩ := List.forall_mem_cons.mp names
  obtain ⟨-, members⟩ := List.forall_mem_cons.mp rest
  have outline : (script.outline game table).Blames known :=
    .seq (.emitLine (script.blames_header game)) <| .seq (.emit _) <|
      Member.blames_outlineList game table script.members members
  have follows := script.follows_render ⟨game, table, .flat⟩
  rw [Script.generate_result, follows]
  exact (outline.run Page.blank).map Page.text

end Trees

end PapyrusWriter
