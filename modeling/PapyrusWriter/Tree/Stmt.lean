import PapyrusWriter.Tree.Expr
/-!
# Statements

A branch is a guard with its statements. It serves the `elseif` parts of an `if` and the cases of a
`switch`.
-/

namespace PapyrusWriter

set_option autoImplicit false

/-- A declared variable. -/
structure VariableDecl where
  type : TypeRef
  name : Identifier
  init : Option Expr
  constant : Bool
  conditional : Bool
deriving Inhabited

/-- A variable whose type comes from its initial value. -/
structure InferredVariable where
  name : Identifier
  init : Option Expr
  constant : Bool
  conditional : Bool
deriving Inhabited

mutual

/-- A statement. -/
inductive Stmt where
  | expr (expr : Expr)
  | ret (value : Option Expr)
  | variable (decl : VariableDecl)
  | inferred (decl : InferredVariable)
  | ifElse (condition : Expr) (body : List Stmt) (elseIfs : List Branch)
      (elseBody : Option (List Stmt))
  | while (condition : Expr) (body : List Stmt)
  | range (element array : Identifier) (body : List Stmt)
  | switch (subject : Expr) (cases : List Branch) (default : Option (List Stmt))
  | conditional (name : String) (body : List Stmt)

/-- A guard with the statements it guards. -/
inductive Branch where
  | mk (guard : Expr) (body : List Stmt)

end

instance : Inhabited Stmt := ⟨.ret none⟩

end PapyrusWriter
