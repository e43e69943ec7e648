import PapyrusWriter.Json.Value
import PapyrusWriter.Tree.Member
/-!
# The JSON form of the tree, written

Every field is written: what is absent as `null`, lists and flags with their value. A node has its
`kind` first.
-/

namespace PapyrusWriter

set_option autoImplicit false

/-- A text, or `null`. -/
def Json.ofOption {α : Type} (encode : α → Json) : Option α → Json
  | none => .null
  | some a => encode a

/-- A node: its kind and its fields. -/
def Json.node (kind : String) (fields : List (String × Json)) : Json :=
  .obj (("kind", .str kind) :: fields)

def Identifier.encode (name : Identifier) : Json := .str name.raw

def QualifiedName.encode (name : QualifiedName) : Json := .str name.raw

def TypeRef.fields (type : TypeRef) : List (String × Json) :=
  [("name", type.name.encode), ("array", .bool type.array)]

def TypeRef.encode (type : TypeRef) : Json := .obj type.fields

def Literal.encode : Literal → Json
  | .int text => .obj [("type", .str "int"), ("value", .str text)]
  | .float text => .obj [("type", .str "float"), ("value", .str text)]
  | .bool value => .obj [("type", .str "bool"), ("value", .bool value)]
  | .string text => .obj [("type", .str "string"), ("value", .str text)]
  | .none => .obj [("type", .str "none")]

mutual

def Expr.encode : Expr → Json
  | .literal value => .node "literal" [("value", value.encode)]
  | .name qualified => .node "name" [("name", qualified.encode)]
  | .binary lhs op rhs =>
      .node "binary" [("lhs", lhs.encode), ("op", .str op), ("rhs", rhs.encode)]
  | .not operand => .node "not" [("operand", operand.encode)]
  | .negate operand => .node "negate" [("operand", operand.encode)]
  | .paren inner => .node "paren" [("inner", inner.encode)]
  | .assign target op value =>
      .node "assign" [("target", target.encode), ("op", .str op), ("value", value.encode)]
  | .call callee args => .node "call" [("callee", callee.encode), ("args", .arr (Expr.encodeList args))]
  | .index array position => .node "index" [("array", array.encode), ("index", position.encode)]
  | .newArray elementType size =>
      .node "newArray" [("element_type", elementType.encode), ("size", size.encode)]
  | .newStruct structType => .node "newStruct" [("struct_type", structType.encode)]
  | .arrayInit elements => .node "arrayInit" [("elements", .arr (elements.map Literal.encode))]
  | .structInit fields => .node "structInit" [("fields", .arr (Expr.encodeFields fields))]
  | .cast operand target =>
      .node "cast" [("operand", operand.encode), ("target_type", target.encode)]
  | .is operand target => .node "is" [("operand", operand.encode), ("target_type", target.encode)]
  | .increment target => .node "increment" [("target", target.encode)]
  | .decrement target => .node "decrement" [("target", target.encode)]

def Expr.encodeList : List Expr → List Json
  | [] => []
  | expr :: rest => expr.encode :: Expr.encodeList rest

def Expr.encodeFields : List FieldInit → List Json
  | [] => []
  | .mk field value :: rest =>
      .obj [("name", field.encode), ("value", value.encode)] :: Expr.encodeFields rest

end

def VariableDecl.fields (decl : VariableDecl) : List (String × Json) :=
  [("type", decl.type.encode), ("name", decl.name.encode), ("init", .ofOption Expr.encode decl.init),
    ("const", .bool decl.constant), ("conditional", .bool decl.conditional)]

def InferredVariable.fields (decl : InferredVariable) : List (String × Json) :=
  [("name", decl.name.encode), ("init", .ofOption Expr.encode decl.init),
    ("const", .bool decl.constant), ("conditional", .bool decl.conditional)]

mutual

def Stmt.encode : Stmt → Json
  | .expr inner => .node "expr" [("expr", inner.encode)]
  | .ret value => .node "return" [("value", .ofOption Expr.encode value)]
  | .variable decl => .node "variable" decl.fields
  | .inferred decl => .node "inferredVariable" decl.fields
  | .ifElse condition body elseIfs elseBody =>
      .node "if"
        [("condition", condition.encode), ("then_block", .arr (Stmt.encodeList body)),
          ("else_ifs", .arr (Stmt.encodeBranches "condition" "block" elseIfs)),
          ("else_block", Stmt.encodeOption elseBody)]
  | .while condition body =>
      .node "while" [("condition", condition.encode), ("body", .arr (Stmt.encodeList body))]
  | .range element array body =>
      .node "range"
        [("element", element.encode), ("array", array.encode),
          ("body", .arr (Stmt.encodeList body))]
  | .switch subject cases default =>
      .node "switch"
        [("subject", subject.encode), ("cases", .arr (Stmt.encodeBranches "value" "body" cases)),
          ("default", Stmt.encodeOption default)]
  | .conditional name body =>
      .node "conditional" [("name", .str name), ("body", .arr (Stmt.encodeList body))]

def Stmt.encodeList : List Stmt → List Json
  | [] => []
  | stmt :: rest => stmt.encode :: Stmt.encodeList rest

def Stmt.encodeOption : Option (List Stmt) → Json
  | none => .null
  | some body => .arr (Stmt.encodeList body)

def Stmt.encodeBranches (guardKey bodyKey : String) : List Branch → List Json
  | [] => []
  | .mk guard body :: rest =>
      .obj [(guardKey, guard.encode), (bodyKey, .arr (Stmt.encodeList body))] ::
        Stmt.encodeBranches guardKey bodyKey rest

end

def PropertyModifier.name : PropertyModifier → String
  | .readOnly => "readOnly"
  | .conditional => "conditional"
  | .hidden => "hidden"

def FunctionModifier.name : FunctionModifier → String
  | .native => "native"
  | .global => "global"

def GroupFlag.name : GroupFlag → String
  | .collapsed => "collapsed"
  | .collapsedOnRef => "collapsedOnRef"
  | .collapsedOnBase => "collapsedOnBase"

def ScriptFlag.name : ScriptFlag → String
  | .hidden => "hidden"
  | .conditional => "conditional"
  | .beta => "beta"
  | .debug => "debug"
  | .const => "const"
  | .native => "native"

def AutoProperty.fields (property : AutoProperty) : List (String × Json) :=
  [("type", property.type.encode), ("name", property.name.encode),
    ("init", .ofOption Expr.encode property.init),
    ("modifier", .ofOption (fun modifier => .str (PropertyModifier.name modifier)) property.modifier),
    ("const", .bool property.constant), ("mandatory", .bool property.mandatory)]

def FullProperty.fields (property : FullProperty) : List (String × Json) :=
  [("type", property.type.encode), ("name", property.name.encode),
    ("getter", Stmt.encodeOption property.getter), ("setter", Stmt.encodeOption property.setter)]

def Param.encode (param : Param) : Json :=
  .obj
    [("type", param.type.encode), ("name", param.name.encode),
      ("default", .ofOption Expr.encode param.default)]

def FunctionDecl.fields (decl : FunctionDecl) : List (String × Json) :=
  [("return_type", .ofOption TypeRef.encode decl.returnType), ("name", decl.name.encode),
    ("params", .arr (decl.params.map Param.encode)),
    ("modifiers", .arr (decl.modifiers.map fun modifier => .str modifier.name)),
    ("body", .arr (Stmt.encodeList decl.body))]

def EventDecl.fields (decl : EventDecl) : List (String × Json) :=
  [("name", decl.name.encode), ("params", .arr (decl.params.map Param.encode)),
    ("body", .arr (Stmt.encodeList decl.body))]

def StructDecl.fields (decl : StructDecl) : List (String × Json) :=
  [("name", decl.name.encode),
    ("members", .arr (decl.members.map fun field => .obj field.fields))]

mutual

def Member.encode : Member → Json
  | .importScript path => .node "import" [("path", .str path)]
  | .variable decl => .node "variable" decl.fields
  | .inferred decl => .node "inferredVariable" decl.fields
  | .autoProperty property => .node "autoProperty" property.fields
  | .fullProperty property => .node "fullProperty" property.fields
  | .function decl => .node "function" decl.fields
  | .event decl => .node "event" decl.fields
  | .state name auto members =>
      .node "state"
        [("name", name.encode), ("auto", .bool auto), ("members", .arr (Member.encodeList members))]
  | .struct decl => .node "struct" decl.fields
  | .group name flags members =>
      .node "group"
        [("name", name.encode), ("flags", .arr (flags.map fun flag => .str (GroupFlag.name flag))),
          ("members", .arr (Member.encodeList members))]
  | .conditional name body =>
      .node "conditional" [("name", .str name), ("body", .arr (Member.encodeList body))]

def Member.encodeList : List Member → List Json
  | [] => []
  | member :: rest => member.encode :: Member.encodeList rest

end

def Script.encode (script : Script) : Json :=
  .obj
    [("name", script.name.encode), ("parent", script.parent.encode),
      ("flags", .arr (script.flags.map fun flag => .str flag.name)),
      ("members", .arr (Member.encodeList script.members))]

def Directive.encode : Directive → Json
  | .define name value =>
      .node "define" [("name", .str name), ("value", .ofOption Json.str value)]
  | .includeFile path => .node "include" [("path", .str path)]

def SyntaxTree.encode (tree : SyntaxTree) : Json :=
  .obj
    [("directives", .arr (tree.directives.map Directive.encode)), ("script", tree.script.encode)]

end PapyrusWriter
