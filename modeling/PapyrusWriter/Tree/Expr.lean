import PapyrusWriter.Tree.Name
/-!
# Literals and expressions

Numbers keep the digits of the source. Operators keep their text as well: the generated script uses
the same ones.
-/

namespace PapyrusWriter

set_option autoImplicit false

/-- A literal value. -/
inductive Literal where
  | int (text : String)
  | float (text : String)
  | bool (value : Bool)
  | string (text : String)
  | none
deriving DecidableEq, Inhabited

namespace Literal

/-- The literal in the generated script. The text between the quotes is not escaped. -/
def text : Literal → String
  | .int text => text
  | .float text => text
  | .bool true => "True"
  | .bool false => "False"
  | .string text => "\"" ++ text ++ "\""
  | .none => "None"

/-- The type of an array that starts with the literal, where no type is declared. -/
def typeName? : Literal → Option String
  | .int _ => some "Int"
  | .float _ => some "Float"
  | .bool _ => some "Bool"
  | .string _ => some "String"
  | .none => Option.none

end Literal

mutual

/-- An expression. Array and struct initializers are expressions of the source only: they are legal
as the whole initial value of a variable. -/
inductive Expr where
  | literal (value : Literal)
  | name (name : QualifiedName)
  | binary (lhs : Expr) (op : String) (rhs : Expr)
  | not (operand : Expr)
  | negate (operand : Expr)
  | paren (inner : Expr)
  | assign (target : Expr) (op : String) (value : Expr)
  | call (callee : QualifiedName) (args : List Expr)
  | index (array index : Expr)
  | newArray (elementType : TypeRef) (size : Expr)
  | newStruct (structType : TypeRef)
  | arrayInit (elements : List Literal)
  | structInit (fields : List FieldInit)
  | cast (operand : Expr) (target : TypeRef)
  | is (operand : Expr) (target : TypeRef)
  | increment (target : QualifiedName)
  | decrement (target : QualifiedName)

/-- The value of one field in a struct initializer. -/
inductive FieldInit where
  | mk (name : Identifier) (value : Expr)

end

instance : Inhabited Expr := ⟨.literal .none⟩

end PapyrusWriter
