import PapyrusWriter.Directive.Table
import PapyrusWriter.Render.Expr
import PapyrusWriter.Render.Page
import PapyrusWriter.Tree.Stmt
/-!
# Declarations and statements as lines

A variable with an array or struct initializer becomes an allocation and one assignment for each
element. A `range` loop becomes a `While` loop with an index, and a `switch` becomes an `If` chain;
a `switch` without cases leaves the statements of its default where it stands.
-/

namespace PapyrusWriter

set_option autoImplicit false

/-- How the body of a `While` loop is laid out. -/
inductive LoopLayout where
  /-- All lines one level below the head, whatever their own level is. -/
  | flat
  /-- Like any other body. -/
  | nested
deriving DecidableEq

/-- How bodies are laid out. -/
structure Layout where
  loops : LoopLayout
  /-- The step that ends a body. -/
  leave : Page → Except TranspileError Page
  /-- On the outermost level, where no body is left, the step may be any. -/
  leave_eq : ∀ page, 0 < page.indent → leave page = .ok page.exit

namespace Layout

/-- Loops are flat, and bodies end with `Page.exit` on every level. -/
def flat : Layout := ⟨.flat, fun page => .ok page.exit, fun _ _ => rfl⟩

/-- Loops are nested, and bodies end with `Page.exit` on every level. -/
def nested : Layout := ⟨.nested, fun page => .ok page.exit, fun _ _ => rfl⟩

end Layout

/-- What rendering depends on. -/
structure Target where
  game : Game
  directives : DirectiveTable
  layout : Layout

namespace Target

/-- The layout of a body. -/
def indented (target : Target) : Renderer → Renderer := Renderer.indented target.layout.leave

/-- The layout of a loop body. -/
def loopBody (target : Target) : Renderer → Renderer :=
  match target.layout.loops with
  | .flat => Renderer.flattened target.layout.leave
  | .nested => target.indented

/-- Writes the body of a conditional block if its name is enabled. -/
def whenEnabled (target : Target) (name : String) (body : Renderer) : Renderer :=
  if target.directives.isEnabled name then body else Renderer.report (.skippedBlock name)

end Target

/-! ## Declarations -/

/-- What follows the value of a declaration. -/
def declarationSuffix (game : Game) (constant conditional : Bool) :
    Except TranspileError String := do
  if constant then
    game.require .constModifier
  pure (" ".intercalate
    ((if constant then ["Const"] else []) ++ (if conditional then ["Conditional"] else [])))

/-- The element type of an array initializer. -/
def arrayElementType (name : String) (declared : Option TypeRef) (elements : List Literal) :
    Except TranspileError TypeRef :=
  match declared with
  | some type =>
      if type.array then .ok type.element
      else .error (.malformedInitializer (.arrayForScalar name))
  | none =>
      match elements.head?.bind Literal.typeName? with
      | some type => .ok (TypeRef.named type)
      | none => .error (.malformedInitializer (.untypedArray name))

/-- The type of a struct initializer. -/
def structInitType (name : String) (declared : Option TypeRef) : Except TranspileError TypeRef :=
  match declared with
  | some type =>
      if type.array then .error (.malformedInitializer (.structForArray name)) else .ok type
  | none => .error (.malformedInitializer (.untypedStruct name))

/-- The assignments of an array's elements, counted from `index`. -/
def elementAssignments (name : String) : Nat → List Literal → List String
  | _, [] => []
  | index, element :: rest =>
      (name ++ "[" ++ toString index ++ "] = " ++ element.text) ::
        elementAssignments name (index + 1) rest

/-- Writes the assignments of a struct's fields. -/
def fieldAssignments (game : Game) (name : String) : List FieldInit → Renderer
  | [] => Renderer.skip
  | .mk field value :: rest =>
      Renderer.emitLine (do
        let text ← value.render game
        pure (name ++ "." ++ field.normalized ++ " = " ++ text)) >=>
      fieldAssignments game name rest

/-- Writes a declaration: `head` is the type or `Var`, and the suffix always follows a blank. -/
def declaration (game : Game) (head : String) (name : String) (declared : Option TypeRef)
    (init : Option Expr) (suffix : String) : Renderer :=
  match init with
  | none => Renderer.emit (head ++ " " ++ name ++ " " ++ suffix)
  | some (.arrayInit elements) =>
      Renderer.emitLine (do
        let type ← arrayElementType name declared elements
        pure (head ++ " " ++ name ++ " = new " ++ type.text ++ "[" ++ toString elements.length ++
          "] " ++ suffix)) >=>
      Renderer.emitAll (elementAssignments name 0 elements)
  | some (.structInit fields) =>
      Renderer.emitLine (do
        game.require .structInitializer
        let type ← structInitType name declared
        pure (head ++ " " ++ name ++ " = new " ++ type.text ++ " " ++ suffix)) >=>
      fieldAssignments game name fields
  | some value =>
      Renderer.emitLine (do
        let text ← value.render game
        pure (head ++ " " ++ name ++ " = " ++ text ++ " " ++ suffix))

def VariableDecl.render (game : Game) (decl : VariableDecl) : Renderer := fun page => do
  let suffix ← declarationSuffix game decl.constant decl.conditional
  declaration game decl.type.text decl.name.normalized (some decl.type) decl.init suffix page

def InferredVariable.render (game : Game) (decl : InferredVariable) : Renderer := fun page => do
  game.require .inferredVariable
  let suffix ← declarationSuffix game decl.constant decl.conditional
  declaration game "Var" decl.name.normalized none decl.init suffix page

/-! ## Statements -/

/-- A line that starts with a keyword and ends with an expression. -/
def keywordLine (game : Game) (keyword : String) (expr : Expr) : Except TranspileError String := do
  let text ← expr.render game
  pure (keyword ++ " " ++ text)

/-- The index variable of a loop over an array. -/
def indexName (array : Identifier) : String := array.normalized ++ "Index"

mutual

/-- Writes a statement. -/
def Stmt.render (target : Target) : Stmt → Renderer
  | .expr inner => Renderer.emitLine (inner.render target.game)
  | .ret none => Renderer.emit "Return"
  | .ret (some value) => Renderer.emitLine (keywordLine target.game "Return" value)
  | .variable decl => decl.render target.game
  | .inferred decl => decl.render target.game
  | .ifElse condition body elseIfs elseBody =>
      Renderer.emitLine (keywordLine target.game "If" condition) >=>
      target.indented (Stmt.renderList target body) >=>
      Stmt.renderElseIfs target elseIfs >=>
      Stmt.renderElse target elseBody >=>
      Renderer.emit "EndIf"
  | .while condition body =>
      Renderer.emitLine (keywordLine target.game "While" condition) >=>
      target.loopBody (Stmt.renderList target body) >=>
      Renderer.emit "EndWhile"
  | .range element array body =>
      Renderer.emit ("Int " ++ indexName array ++ " = 0") >=>
      Renderer.emit ("While " ++ indexName array ++ " < " ++ array.normalized ++ ".Length") >=>
      target.indented
        (Renderer.emit
          ("Int " ++ element.normalized ++ " = " ++ array.normalized ++ "[" ++ indexName array ++
            "]") >=>
        Stmt.renderList target body >=>
        Renderer.emit (indexName array ++ " += 1")) >=>
      Renderer.emit "EndWhile"
  | .switch subject [] default => fun page => do
      let _ ← subject.render target.game
      Stmt.renderOption target default page
  | .switch subject (.mk guard body :: cases) default => fun page => do
      let text ← subject.render target.game
      (Renderer.emitLine (keywordLine target.game ("If " ++ text ++ " ==") guard) >=>
        target.indented (Stmt.renderList target body) >=>
        Stmt.renderCases target text cases >=>
        Stmt.renderElse target default >=>
        Renderer.emit "EndIf") page
  | .conditional name body => target.whenEnabled name (Stmt.renderList target body)

/-- Writes statements, one after the other. -/
def Stmt.renderList (target : Target) : List Stmt → Renderer
  | [] => Renderer.skip
  | stmt :: rest => stmt.render target >=> Stmt.renderList target rest

/-- Writes the statements, if there are any, on the level of the page. -/
def Stmt.renderOption (target : Target) : Option (List Stmt) → Renderer
  | none => Renderer.skip
  | some body => Stmt.renderList target body

/-- Writes an `Else` part, if there is one. -/
def Stmt.renderElse (target : Target) : Option (List Stmt) → Renderer
  | none => Renderer.skip
  | some body => Renderer.emit "Else" >=> target.indented (Stmt.renderList target body)

/-- Writes the `ElseIf` parts of an `if`. -/
def Stmt.renderElseIfs (target : Target) : List Branch → Renderer
  | [] => Renderer.skip
  | .mk guard body :: rest =>
      Renderer.emitLine (keywordLine target.game "ElseIf" guard) >=>
      target.indented (Stmt.renderList target body) >=>
      Stmt.renderElseIfs target rest

/-- Writes the cases of a `switch` after its first one. -/
def Stmt.renderCases (target : Target) (subject : String) : List Branch → Renderer
  | [] => Renderer.skip
  | .mk guard body :: rest =>
      Renderer.emitLine (keywordLine target.game ("ElseIf " ++ subject ++ " ==") guard) >=>
      target.indented (Stmt.renderList target body) >=>
      Stmt.renderCases target subject rest

end

end PapyrusWriter
