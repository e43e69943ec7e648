import PapyrusWriter.Tree.Stmt
/-!
# Members of a script, directives, and the whole syntax tree
-/

namespace PapyrusWriter

set_option autoImplicit false

/-- What an automatic property adds to `Auto`. -/
inductive PropertyModifier where
  | readOnly
  | conditional
  | hidden
deriving DecidableEq, Inhabited

/-- A property whose accessors the engine supplies. -/
structure AutoProperty where
  type : TypeRef
  name : Identifier
  init : Option Expr
  modifier : Option PropertyModifier
  constant : Bool
  mandatory : Bool
deriving Inhabited

/-- A property with accessors of its own, which take their type from it. -/
structure FullProperty where
  type : TypeRef
  name : Identifier
  getter : Option (List Stmt)
  setter : Option (List Stmt)
deriving Inhabited

/-- A parameter of a function or an event. -/
structure Param where
  type : TypeRef
  name : Identifier
  default : Option Expr
deriving Inhabited

inductive FunctionModifier where
  | native
  | global
deriving DecidableEq, Inhabited

structure FunctionDecl where
  returnType : Option TypeRef
  name : Identifier
  params : List Param
  modifiers : List FunctionModifier
  body : List Stmt
deriving Inhabited

structure EventDecl where
  name : Identifier
  params : List Param
  body : List Stmt
deriving Inhabited

structure StructDecl where
  name : Identifier
  members : List VariableDecl
deriving Inhabited

inductive GroupFlag where
  | collapsed
  | collapsedOnRef
  | collapsedOnBase
deriving DecidableEq, Inhabited

/-- A member of a script, of a state or of a group. The body of a conditional block counts only
where its directive is exactly `true`. -/
inductive Member where
  | importScript (path : String)
  | variable (decl : VariableDecl)
  | inferred (decl : InferredVariable)
  | autoProperty (property : AutoProperty)
  | fullProperty (property : FullProperty)
  | function (decl : FunctionDecl)
  | event (decl : EventDecl)
  | state (name : Identifier) (auto : Bool) (members : List Member)
  | struct (decl : StructDecl)
  | group (name : Identifier) (flags : List GroupFlag) (members : List Member)
  | conditional (name : String) (body : List Member)
deriving Inhabited

inductive ScriptFlag where
  | hidden
  | conditional
  | beta
  | debug
  | const
  | native
deriving DecidableEq, Inhabited

/-- A script: its header and its members. -/
structure Script where
  name : Identifier
  parent : Identifier
  flags : List ScriptFlag
  members : List Member
deriving Inhabited

/-- An instruction to the preprocessor. -/
inductive Directive where
  | define (name : String) (value : Option String)
  | includeFile (path : String)
deriving DecidableEq, Inhabited

/-- What one source file holds. -/
structure SyntaxTree where
  directives : List Directive
  script : Script
deriving Inhabited

end PapyrusWriter
