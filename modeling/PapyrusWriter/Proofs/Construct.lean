import PapyrusWriter.Game
import PapyrusWriter.Tree.Member
/-!
# Constructs

The constructs of a script are listed by plain recursion, without regard to what is allowed where:
`Script.constructs` knows the syntax only, and tells the whole initial value of a variable
(`initial`) from every other expression (`expr`).

What a single construct has to satisfy is local to it:

* `malformed` says that it is wrong in every game: a property without accessor or of type `void`, an
  initializer at a place that is no initial value, an initializer that does not go with the type of
  its variable, or one that gives an inferred variable no type;
* `extended` says that the baseline game does not know it.
-/

namespace PapyrusWriter

set_option autoImplicit false

/-! ## The constructs of a script -/

/-- A part of a script that may be refused. -/
inductive Construct where
  | flag (flag : ScriptFlag)
  | variable (decl : VariableDecl)
  | inferred (decl : InferredVariable)
  | autoProperty (property : AutoProperty)
  | fullProperty (property : FullProperty)
  | struct (name : Identifier)
  | group (name : Identifier)
  /-- The whole initial value of a variable. -/
  | initial (expr : Expr)
  /-- An expression anywhere else. -/
  | expr (expr : Expr)

mutual

/-- The expressions inside an expression, at any depth. -/
def Expr.inside : Expr → List Construct
  | .literal _ => []
  | .name _ => []
  | .binary lhs _ rhs => (.expr lhs :: lhs.inside) ++ (.expr rhs :: rhs.inside)
  | .not operand => .expr operand :: operand.inside
  | .negate operand => .expr operand :: operand.inside
  | .paren inner => .expr inner :: inner.inside
  | .assign target _ value => (.expr target :: target.inside) ++ (.expr value :: value.inside)
  | .call _ args => Expr.insideList args
  | .index array position => (.expr array :: array.inside) ++ (.expr position :: position.inside)
  | .newArray _ size => .expr size :: size.inside
  | .newStruct _ => []
  | .arrayInit _ => []
  | .structInit fields => Expr.insideFields fields
  | .cast operand _ => .expr operand :: operand.inside
  | .is operand _ => .expr operand :: operand.inside
  | .increment _ => []
  | .decrement _ => []

def Expr.insideList : List Expr → List Construct
  | [] => []
  | expr :: rest => (.expr expr :: expr.inside) ++ Expr.insideList rest

def Expr.insideFields : List FieldInit → List Construct
  | [] => []
  | .mk _ value :: rest => (.expr value :: value.inside) ++ Expr.insideFields rest

end

/-- An expression that is no initial value, with all that is inside it. -/
def Expr.constructs (expr : Expr) : List Construct := .expr expr :: expr.inside

def Expr.optionConstructs : Option Expr → List Construct
  | none => []
  | some expr => expr.constructs

/-- An initial value with all that is inside it. -/
def Expr.initialConstructs : Option Expr → List Construct
  | none => []
  | some expr => .initial expr :: expr.inside

def VariableDecl.constructs (decl : VariableDecl) : List Construct :=
  .variable decl :: Expr.initialConstructs decl.init

def InferredVariable.constructs (decl : InferredVariable) : List Construct :=
  .inferred decl :: Expr.initialConstructs decl.init

mutual

def Stmt.constructs : Stmt → List Construct
  | .expr inner => inner.constructs
  | .ret value => Expr.optionConstructs value
  | .variable decl => decl.constructs
  | .inferred decl => decl.constructs
  | .ifElse condition body elseIfs elseBody =>
      condition.constructs ++ Stmt.listConstructs body ++ Stmt.branchConstructs elseIfs ++
        Stmt.optionConstructs elseBody
  | .while condition body => condition.constructs ++ Stmt.listConstructs body
  | .range _ _ body => Stmt.listConstructs body
  | .switch subject cases default =>
      subject.constructs ++ Stmt.branchConstructs cases ++ Stmt.optionConstructs default
  | .conditional _ body => Stmt.listConstructs body

def Stmt.listConstructs : List Stmt → List Construct
  | [] => []
  | stmt :: rest => stmt.constructs ++ Stmt.listConstructs rest

def Stmt.optionConstructs : Option (List Stmt) → List Construct
  | none => []
  | some body => Stmt.listConstructs body

def Stmt.branchConstructs : List Branch → List Construct
  | [] => []
  | .mk guard body :: rest =>
      guard.constructs ++ Stmt.listConstructs body ++ Stmt.branchConstructs rest

end

def Param.constructs (param : Param) : List Construct := Expr.optionConstructs param.default

mutual

def Member.constructs : Member → List Construct
  | .importScript _ => []
  | .variable decl => decl.constructs
  | .inferred decl => decl.constructs
  | .autoProperty property => .autoProperty property :: Expr.optionConstructs property.init
  | .fullProperty property =>
      .fullProperty property ::
        (Stmt.optionConstructs property.getter ++ Stmt.optionConstructs property.setter)
  | .function decl => decl.params.flatMap Param.constructs ++ Stmt.listConstructs decl.body
  | .event decl => decl.params.flatMap Param.constructs ++ Stmt.listConstructs decl.body
  | .state _ _ members => Member.listConstructs members
  | .struct decl => .struct decl.name :: decl.members.flatMap VariableDecl.constructs
  | .group name _ members => .group name :: Member.listConstructs members
  | .conditional _ body => Member.listConstructs body

def Member.listConstructs : List Member → List Construct
  | [] => []
  | member :: rest => member.constructs ++ Member.listConstructs rest

end

/-- The flags of the header, and everything in the members. -/
def Script.constructs (script : Script) : List Construct :=
  script.flags.map Construct.flag ++ Member.listConstructs script.members

/-! ## What a construct has to satisfy -/

/-- An expression that stands for an initial value only. -/
def Expr.isInitializer : Expr → Bool
  | .arrayInit _ => true
  | .structInit _ => true
  | _ => false

/-- An expression that the baseline game does not know. -/
def Expr.isExtended : Expr → Bool
  | .newStruct _ => true
  | .structInit _ => true
  | _ => false

/-- The initializer is for another kind of type. -/
def VariableDecl.isMismatched (decl : VariableDecl) : Bool :=
  match decl.init with
  | some (.arrayInit _) => !decl.type.array
  | some (.structInit _) => decl.type.array
  | _ => false

/-- The initializer tells no type. -/
def InferredVariable.isUntyped (decl : InferredVariable) : Bool :=
  match decl.init with
  | some (.structInit _) => true
  | some (.arrayInit []) => true
  | some (.arrayInit (.none :: _)) => true
  | _ => false

namespace Construct

/-- Wrong in every game. -/
def malformed : Construct → Bool
  | .fullProperty property =>
      (property.getter.isNone && property.setter.isNone) ||
        (!property.type.array && property.type.name.raw.toList.map Char.toLower = "void".toList)
  | .variable decl => decl.isMismatched
  | .inferred decl => decl.isUntyped
  | .expr inner => inner.isInitializer
  | _ => false

/-- Unknown to the baseline game. -/
def extended : Construct → Bool
  | .flag word => word ∈ [ScriptFlag.beta, .debug, .const, .native]
  | .variable decl => decl.constant
  | .inferred _ => true
  | .autoProperty property => property.constant || property.mandatory
  | .struct _ => true
  | .group _ => true
  | .initial value => value.isExtended
  | .expr inner => inner.isExtended
  | .fullProperty _ => false

/-- A construct that a game accepts. -/
def Fits (game : Game) (construct : Construct) : Prop :=
  construct.malformed = false ∧ (game = .skyrimSE → construct.extended = false)

def AllFit (game : Game) (constructs : List Construct) : Prop :=
  ∀ construct ∈ constructs, construct.Fits game

variable {game : Game}

@[simp] theorem allFit_nil : AllFit game [] := by
  intro construct member
  cases member

@[simp] theorem allFit_cons {construct : Construct} {rest : List Construct} :
    AllFit game (construct :: rest) ↔ construct.Fits game ∧ AllFit game rest :=
  List.forall_mem_cons

@[simp] theorem allFit_append {front back : List Construct} :
    AllFit game (front ++ back) ↔ AllFit game front ∧ AllFit game back :=
  List.forall_mem_append

@[simp] theorem fits_expr {inner : Expr} :
    (expr inner).Fits game ↔
      inner.isInitializer = false ∧ (game = .skyrimSE → inner.isExtended = false) := Iff.rfl

@[simp] theorem fits_initial {value : Expr} :
    (initial value).Fits game ↔ (game = .skyrimSE → value.isExtended = false) :=
  and_iff_right rfl

@[simp] theorem fits_variable {decl : VariableDecl} :
    (Construct.variable decl).Fits game ↔
      decl.isMismatched = false ∧ (game = .skyrimSE → decl.constant = false) := Iff.rfl

@[simp] theorem fits_inferred {decl : InferredVariable} :
    (Construct.inferred decl).Fits game ↔ decl.isUntyped = false ∧ game ≠ .skyrimSE := by
  simp [Fits, malformed, extended]

@[simp] theorem fits_struct {name : Identifier} : (struct name).Fits game ↔ game ≠ .skyrimSE := by
  simp [Fits, malformed, extended]

@[simp] theorem fits_group {name : Identifier} : (group name).Fits game ↔ game ≠ .skyrimSE := by
  simp [Fits, malformed, extended]

/-- Of an ordinary expression only what is inside it matters. -/
theorem allFit_plain {inner : Expr} (ordinary : inner.isInitializer = false)
    (common : inner.isExtended = false) :
    AllFit game inner.constructs ↔ AllFit game inner.inside := by
  simp [Expr.constructs, ordinary, common]

end Construct

end PapyrusWriter
