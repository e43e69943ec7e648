import PapyrusWriter.Error
import PapyrusWriter.Tree.Expr
/-!
# Expressions as text

Expressions are written as they stand; the only checks are that the game knows the construct, and
that array and struct initializers do not occur inside an expression.
-/

namespace PapyrusWriter

set_option autoImplicit false

mutual

/-- The text of an expression. -/
def Expr.render (game : Game) : Expr → Except TranspileError String
  | .literal value => pure value.text
  | .name qualified => pure qualified.normalized
  | .binary lhs op rhs => do
      let left ← lhs.render game
      let right ← rhs.render game
      pure (left ++ " " ++ op ++ " " ++ right)
  | .not operand => do
      let text ← operand.render game
      pure ("!" ++ text)
  | .negate operand => do
      let text ← operand.render game
      pure ("-" ++ text)
  | .paren inner => do
      let text ← inner.render game
      pure ("(" ++ text ++ ")")
  | .assign target op value => do
      let left ← target.render game
      let right ← value.render game
      pure (left ++ " " ++ op ++ " " ++ right)
  | .call callee args => do
      let texts ← Expr.renderList game args
      pure (callee.normalized ++ "(" ++ ", ".intercalate texts ++ ")")
  | .index array position => do
      let left ← array.render game
      let right ← position.render game
      pure (left ++ "[" ++ right ++ "]")
  | .newArray elementType size => do
      let text ← size.render game
      pure ("new " ++ elementType.text ++ "[" ++ text ++ "]")
  | .newStruct structType => do
      game.require .newStruct
      pure ("new " ++ structType.text)
  | .arrayInit _ => throw (.malformedInitializer .misplacedArray)
  | .structInit _ => do
      game.require .structInitializer
      throw (.malformedInitializer .misplacedStruct)
  | .cast operand target => do
      let text ← operand.render game
      pure (text ++ " As " ++ target.text)
  | .is operand target => do
      let text ← operand.render game
      pure (text ++ " Is " ++ target.text)
  | .increment target => pure (target.normalized ++ " += 1")
  | .decrement target => pure (target.normalized ++ " -= 1")

/-- The texts of expressions, up to the first error. -/
def Expr.renderList (game : Game) : List Expr → Except TranspileError (List String)
  | [] => pure []
  | expr :: rest => do
      let text ← expr.render game
      let texts ← Expr.renderList game rest
      pure (text :: texts)

end

end PapyrusWriter
