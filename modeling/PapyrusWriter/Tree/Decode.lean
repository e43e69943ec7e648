import PapyrusWriter.Game
import PapyrusWriter.Json.Adjacent
import PapyrusWriter.Tree.Member
/-!
# The JSON form of the tree, read

One description per type, which serves texts and kept values alike. Nodes nest, so the decoders of
expressions, statements and members are built up level by level; `levels` levels are as many as a
text may have.
-/

namespace PapyrusWriter

set_option autoImplicit false

open Json

/-- The number of lists and objects that may stand inside one another. -/
def Json.depthLimit : Nat := 127

/-- Reads a whole text. Nothing but white space may follow the value. -/
def Json.Decoder.read {α : Type} (decoder : Decoder α) (text : String) : Except ReadError α :=
  let reader : Reader α := do
    let value ← decoder.text depthLimit
    match ← Reader.token with
    | none => pure value
    | some _ => Reader.failNext .trailingCharacters
  match reader (Cursor.start text) with
  | .ok value _ => .ok value
  | .error error _ => .error error

/-- The number of levels for which decoders of nested nodes are built. -/
def levels : Nat := depthLimit + 1

namespace Game

def decoder : Decoder Game := Decoder.enum (all.map fun game => (game.name, game))

end Game

namespace Identifier

def decoder : Decoder Identifier := Decoder.string.map Identifier.mk

end Identifier

namespace QualifiedName

def decoder : Decoder QualifiedName := Decoder.string.map QualifiedName.ofString

end QualifiedName

namespace TypeRef

def record : Record TypeRef where
  name := "struct TypeRef"
  fields := .required "name" Identifier.decoder <| .defaulted "array" Decoder.bool false .nil
  build := TypeRef.mk

def decoder : Decoder TypeRef := record.decoder

end TypeRef

namespace Literal

def keys : AdjacentKeys := ⟨"Literal", "type", "value"⟩

/-- A variant with content. -/
def payload {α : Type} (decoder : Decoder α) (make : α → Literal) : Payload Literal :=
  ⟨decoder.map make, Option.none⟩

def decoder : Decoder Literal :=
  Decoder.adjacent keys
    [("int", payload Decoder.string .int), ("float", payload Decoder.string .float),
      ("bool", payload Decoder.bool .bool), ("string", payload Decoder.string .string),
      ("none", ⟨Decoder.nothing "unit variant Literal::None" .none, some .none⟩)]

end Literal

/-! ## Expressions -/

namespace Expr

/-- A field of the struct initializer. -/
def fieldInit (expr : Decoder Expr) : Decoder FieldInit :=
  Record.decoder
    { name := "struct FieldInit"
      fields := .required "name" Identifier.decoder <| .required "value" expr .nil
      build := FieldInit.mk }

/-- The fields of a variant. -/
def variant {types : List Type} (name : String) (fields : Fields types) (build : Builder types Expr) :
    VariantReader Expr :=
  Record.value ⟨"struct variant Expr::" ++ name, fields, build⟩

/-- The variants, over a decoder for the expressions inside them. -/
def variants (expr : Decoder Expr) : List (String × VariantReader Expr) :=
  [("literal", variant "Literal" (.required "value" Literal.decoder .nil) Expr.literal),
    ("name", variant "Name" (.required "name" QualifiedName.decoder .nil) Expr.name),
    ("binary",
      variant "Binary"
        (.required "lhs" expr <| .required "op" Decoder.string <| .required "rhs" expr .nil)
        Expr.binary),
    ("not", variant "Not" (.required "operand" expr .nil) Expr.not),
    ("negate", variant "Negate" (.required "operand" expr .nil) Expr.negate),
    ("paren", variant "Paren" (.required "inner" expr .nil) Expr.paren),
    ("assign",
      variant "Assign"
        (.required "target" expr <| .required "op" Decoder.string <| .required "value" expr .nil)
        Expr.assign),
    ("call",
      variant "Call"
        (.required "callee" QualifiedName.decoder <| .defaulted "args" expr.list [] .nil)
        Expr.call),
    ("index", variant "Index" (.required "array" expr <| .required "index" expr .nil) Expr.index),
    ("newArray",
      variant "NewArray" (.required "element_type" TypeRef.decoder <| .required "size" expr .nil)
        Expr.newArray),
    ("newStruct",
      variant "NewStruct" (.required "struct_type" TypeRef.decoder .nil) Expr.newStruct),
    ("arrayInit",
      variant "ArrayInit" (.defaulted "elements" Literal.decoder.list [] .nil) Expr.arrayInit),
    ("structInit",
      variant "StructInit" (.defaulted "fields" (fieldInit expr).list [] .nil) Expr.structInit),
    ("cast",
      variant "Cast" (.required "operand" expr <| .required "target_type" TypeRef.decoder .nil)
        Expr.cast),
    ("is",
      variant "Is" (.required "operand" expr <| .required "target_type" TypeRef.decoder .nil) Expr.is),
    ("increment",
      variant "Increment" (.required "target" QualifiedName.decoder .nil) Expr.increment),
    ("decrement",
      variant "Decrement" (.required "target" QualifiedName.decoder .nil) Expr.decrement)]

/-- The decoder of expressions with so many levels. -/
def decoderAt : Nat → Decoder Expr
  | 0 => Decoder.fail
  | level + 1 => Decoder.tagged "Expr" (variants (decoderAt level))

def decoder : Decoder Expr := decoderAt levels

end Expr

/-! ## Statements -/

namespace VariableDecl

def record : Record VariableDecl where
  name := "struct VariableDecl"
  fields := .required "type" TypeRef.decoder <| .required "name" Identifier.decoder <|
    .optional "init" Expr.decoder <| .defaulted "const" Decoder.bool false <|
    .defaulted "conditional" Decoder.bool false .nil
  build := VariableDecl.mk

end VariableDecl

namespace InferredVariable

def record : Record InferredVariable where
  name := "struct InferredVariableDecl"
  fields := .required "name" Identifier.decoder <| .optional "init" Expr.decoder <|
    .defaulted "const" Decoder.bool false <| .defaulted "conditional" Decoder.bool false .nil
  build := InferredVariable.mk

end InferredVariable

/-- A variant whose fields are those of a record. -/
def Json.Record.variant {α β : Type} (record : Record α) (make : α → β) : VariantReader β :=
  fun json => make <$> record.value json

namespace Stmt

/-- A guard and its statements, under the names the record gives them. -/
def branch (name guard body : String) (stmt : Decoder Stmt) : Decoder Branch :=
  Record.decoder
    { name := name
      fields := .required guard Expr.decoder <| .required body stmt.list .nil
      build := Branch.mk }

/-- The variants, over a decoder for the statements inside them. -/
def variants (stmt : Decoder Stmt) : List (String × VariantReader Stmt) :=
  [("expr",
      Record.value ⟨"struct variant Stmt::Expr", .required "expr" Expr.decoder .nil, Stmt.expr⟩),
    ("return",
      Record.value ⟨"struct variant Stmt::Return", .optional "value" Expr.decoder .nil, Stmt.ret⟩),
    ("variable", VariableDecl.record.variant Stmt.variable),
    ("inferredVariable", InferredVariable.record.variant Stmt.inferred),
    ("if",
      Record.value
        ⟨"struct IfStmt",
          .required "condition" Expr.decoder <| .required "then_block" stmt.list <|
            .defaulted "else_ifs" (branch "struct ElseIf" "condition" "block" stmt).list [] <|
            .optional "else_block" stmt.list .nil,
          Stmt.ifElse⟩),
    ("while",
      Record.value
        ⟨"struct WhileStmt", .required "condition" Expr.decoder <| .required "body" stmt.list .nil,
          Stmt.while⟩),
    ("range",
      Record.value
        ⟨"struct RangeStmt",
          .required "element" Identifier.decoder <| .required "array" Identifier.decoder <|
            .required "body" stmt.list .nil,
          Stmt.range⟩),
    ("switch",
      Record.value
        ⟨"struct SwitchStmt",
          .required "subject" Expr.decoder <|
            .defaulted "cases" (branch "struct SwitchCase" "value" "body" stmt).list [] <|
            .optional "default" stmt.list .nil,
          Stmt.switch⟩),
    ("conditional",
      Record.value
        ⟨"struct ConditionalBlock",
          .required "name" Decoder.string <| .defaulted "body" stmt.list [] .nil,
          Stmt.conditional⟩)]

/-- The decoder of statements with so many levels. -/
def decoderAt : Nat → Decoder Stmt
  | 0 => Decoder.fail
  | level + 1 => Decoder.tagged "Stmt" (variants (decoderAt level))

def decoder : Decoder Stmt := decoderAt levels

/-- A list of statements. -/
def blockDecoder : Decoder (List Stmt) := decoder.list

end Stmt

/-! ## Members -/

namespace PropertyModifier

def decoder : Decoder PropertyModifier :=
  Decoder.enum [("readOnly", .readOnly), ("conditional", .conditional), ("hidden", .hidden)]

end PropertyModifier

namespace FunctionModifier

def decoder : Decoder FunctionModifier :=
  Decoder.enum [("native", .native), ("global", .global)]

end FunctionModifier

namespace GroupFlag

def decoder : Decoder GroupFlag :=
  Decoder.enum
    [("collapsed", .collapsed), ("collapsedOnRef", .collapsedOnRef),
      ("collapsedOnBase", .collapsedOnBase)]

end GroupFlag

namespace ScriptFlag

def decoder : Decoder ScriptFlag :=
  Decoder.enum
    [("hidden", .hidden), ("conditional", .conditional), ("beta", .beta), ("debug", .debug),
      ("const", .const), ("native", .native)]

end ScriptFlag

namespace AutoProperty

def record : Record AutoProperty where
  name := "struct AutoProperty"
  fields := .required "type" TypeRef.decoder <| .required "name" Identifier.decoder <|
    .optional "init" Expr.decoder <| .optional "modifier" PropertyModifier.decoder <|
    .defaulted "const" Decoder.bool false <| .defaulted "mandatory" Decoder.bool false .nil
  build := AutoProperty.mk

end AutoProperty

namespace FullProperty

def record : Record FullProperty where
  name := "struct FullProperty"
  fields := .required "type" TypeRef.decoder <| .required "name" Identifier.decoder <|
    .optional "getter" Stmt.blockDecoder <| .optional "setter" Stmt.blockDecoder .nil
  build := FullProperty.mk

end FullProperty

namespace Param

def record : Record Param where
  name := "struct Param"
  fields := .required "type" TypeRef.decoder <| .required "name" Identifier.decoder <|
    .optional "default" Expr.decoder .nil
  build := Param.mk

end Param

namespace FunctionDecl

def record : Record FunctionDecl where
  name := "struct FunctionDecl"
  fields := .optional "return_type" TypeRef.decoder <| .required "name" Identifier.decoder <|
    .defaulted "params" Param.record.decoder.list [] <|
    .defaulted "modifiers" FunctionModifier.decoder.list [] <|
    .defaulted "body" Stmt.blockDecoder [] .nil
  build := FunctionDecl.mk

end FunctionDecl

namespace EventDecl

def record : Record EventDecl where
  name := "struct EventDecl"
  fields := .required "name" Identifier.decoder <|
    .defaulted "params" Param.record.decoder.list [] <| .defaulted "body" Stmt.blockDecoder [] .nil
  build := EventDecl.mk

end EventDecl

namespace StructDecl

def record : Record StructDecl where
  name := "struct StructDecl"
  fields := .required "name" Identifier.decoder <|
    .defaulted "members" VariableDecl.record.decoder.list [] .nil
  build := StructDecl.mk

end StructDecl

namespace Member

/-- The variants, over a decoder for the members inside them. -/
def variants (member : Decoder Member) : List (String × VariantReader Member) :=
  [("import",
      Record.value ⟨"struct ImportDecl", .required "path" Decoder.string .nil, Member.importScript⟩),
    ("variable", VariableDecl.record.variant Member.variable),
    ("inferredVariable", InferredVariable.record.variant Member.inferred),
    ("autoProperty", AutoProperty.record.variant Member.autoProperty),
    ("fullProperty", FullProperty.record.variant Member.fullProperty),
    ("function", FunctionDecl.record.variant Member.function),
    ("event", EventDecl.record.variant Member.event),
    ("state",
      Record.value
        ⟨"struct StateDecl",
          .required "name" Identifier.decoder <| .defaulted "auto" Decoder.bool false <|
            .defaulted "members" member.list [] .nil,
          Member.state⟩),
    ("struct", StructDecl.record.variant Member.struct),
    ("group",
      Record.value
        ⟨"struct GroupDecl",
          .required "name" Identifier.decoder <| .defaulted "flags" GroupFlag.decoder.list [] <|
            .defaulted "members" member.list [] .nil,
          Member.group⟩),
    ("conditional",
      Record.value
        ⟨"struct ConditionalBlock",
          .required "name" Decoder.string <| .defaulted "body" member.list [] .nil,
          Member.conditional⟩)]

/-- The decoder of members with so many levels. -/
def decoderAt : Nat → Decoder Member
  | 0 => Decoder.fail
  | level + 1 => Decoder.tagged "Member" (variants (decoderAt level))

def decoder : Decoder Member := decoderAt levels

end Member

/-! ## Scripts -/

namespace Script

def record : Record Script where
  name := "struct ScriptDecl"
  fields := .required "name" Identifier.decoder <| .required "parent" Identifier.decoder <|
    .defaulted "flags" ScriptFlag.decoder.list [] <| .defaulted "members" Member.decoder.list [] .nil
  build := Script.mk

def decoder : Decoder Script := record.decoder

end Script

namespace Directive

def decoder : Decoder Directive :=
  Decoder.tagged "Directive"
    [("define",
        Record.value
          ⟨"struct variant Directive::Define",
            .required "name" Decoder.string <| .optional "value" Decoder.string .nil,
            Directive.define⟩),
      ("include",
        Record.value
          ⟨"struct variant Directive::Include", .required "path" Decoder.string .nil,
            Directive.includeFile⟩)]

end Directive

namespace SyntaxTree

def record : Record SyntaxTree where
  name := "struct SyntaxTree"
  fields := .defaulted "directives" Directive.decoder.list [] <|
    .required "script" Script.decoder .nil
  build := SyntaxTree.mk

def decoder : Decoder SyntaxTree := record.decoder

end SyntaxTree

end PapyrusWriter
