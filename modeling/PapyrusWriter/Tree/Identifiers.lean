import PapyrusWriter.Diagnostic
import PapyrusWriter.Tree.Member
/-!
# The identifiers of a script

An identifier is well formed when it is one or more words of ASCII letters, digits and underscores,
none of them starting with a digit, with `::` between them. `occurrences` lists the identifiers of a
script in source order, with the role that each one has; bodies of conditional blocks always count.
Every ill-formed one gives a diagnostic.
-/

namespace PapyrusWriter

set_option autoImplicit false

namespace Identifier

def isStartChar (c : Char) : Bool := c.isAlpha || c = '_'

def isPartChar (c : Char) : Bool := c.isAlphanum || c = '_'

/-- Whether the characters complete an identifier; `start` tells whether a word has to start. -/
def wellFormedFrom : Bool → List Char → Bool
  | start, [] => !start
  | true, c :: cs => isStartChar c && wellFormedFrom false cs
  | false, ':' :: ':' :: cs => wellFormedFrom true cs
  | false, c :: cs => isPartChar c && wellFormedFrom false cs

def isWellFormed (name : Identifier) : Bool :=
  wellFormedFrom true name.raw.toList

end Identifier

/-- What an identifier is used for. -/
inductive Role where
  | scriptName
  | scriptParent
  | type
  | parameter
  | variable
  | property
  | function
  | event
  | state
  | struct
  | group
  | rangeElement
  | rangeArray
  | name
  | call
  | structField
  | stepTarget
deriving DecidableEq

namespace Role

def text : Role → String
  | .scriptName => "script name"
  | .scriptParent => "script parent"
  | .type => "type"
  | .parameter => "parameter"
  | .variable => "variable"
  | .property => "property"
  | .function => "function"
  | .event => "event"
  | .state => "state"
  | .struct => "struct"
  | .group => "group"
  | .rangeElement => "range element"
  | .rangeArray => "range array"
  | .name => "name"
  | .call => "call"
  | .structField => "struct field"
  | .stepTarget => "increment target"

end Role

/-- An identifier at a place of a script. -/
structure Occurrence where
  role : Role
  name : Identifier
deriving DecidableEq

namespace Occurrence

/-- The diagnostic of an ill-formed identifier. -/
def diagnostic? (occurrence : Occurrence) : Option Diagnostic :=
  if occurrence.name.isWellFormed then none
  else
    some ⟨none, "invalid identifier \"" ++ occurrence.name.raw ++ "\" in " ++ occurrence.role.text⟩

end Occurrence

def QualifiedName.occurrences (role : Role) (name : QualifiedName) : List Occurrence :=
  name.segments.map fun segment => ⟨role, segment⟩

def TypeRef.occurrences (type : TypeRef) : List Occurrence := [⟨.type, type.name⟩]

mutual

def Expr.occurrences : Expr → List Occurrence
  | .literal _ => []
  | .name qualified => qualified.occurrences .name
  | .binary lhs _ rhs => lhs.occurrences ++ rhs.occurrences
  | .not operand => operand.occurrences
  | .negate operand => operand.occurrences
  | .paren inner => inner.occurrences
  | .assign target _ value => target.occurrences ++ value.occurrences
  | .call callee args => callee.occurrences .call ++ Expr.listOccurrences args
  | .index array position => array.occurrences ++ position.occurrences
  | .newArray elementType size => elementType.occurrences ++ size.occurrences
  | .newStruct structType => structType.occurrences
  | .arrayInit _ => []
  | .structInit fields => Expr.fieldOccurrences fields
  | .cast operand target => operand.occurrences ++ target.occurrences
  | .is operand target => operand.occurrences ++ target.occurrences
  | .increment target => target.occurrences .stepTarget
  | .decrement target => target.occurrences .stepTarget

def Expr.listOccurrences : List Expr → List Occurrence
  | [] => []
  | expr :: rest => expr.occurrences ++ Expr.listOccurrences rest

def Expr.fieldOccurrences : List FieldInit → List Occurrence
  | [] => []
  | .mk field value :: rest =>
      ⟨.structField, field⟩ :: (value.occurrences ++ Expr.fieldOccurrences rest)

end

def Expr.optionOccurrences : Option Expr → List Occurrence
  | none => []
  | some expr => expr.occurrences

def VariableDecl.occurrences (decl : VariableDecl) : List Occurrence :=
  decl.type.occurrences ++ ⟨.variable, decl.name⟩ :: Expr.optionOccurrences decl.init

def InferredVariable.occurrences (decl : InferredVariable) : List Occurrence :=
  ⟨.variable, decl.name⟩ :: Expr.optionOccurrences decl.init

mutual

def Stmt.occurrences : Stmt → List Occurrence
  | .expr inner => inner.occurrences
  | .ret value => Expr.optionOccurrences value
  | .variable decl => decl.occurrences
  | .inferred decl => decl.occurrences
  | .ifElse condition body elseIfs elseBody =>
      condition.occurrences ++ Stmt.listOccurrences body ++ Stmt.branchOccurrences elseIfs ++
        Stmt.optionOccurrences elseBody
  | .while condition body => condition.occurrences ++ Stmt.listOccurrences body
  | .range element array body =>
      ⟨.rangeElement, element⟩ :: ⟨.rangeArray, array⟩ :: Stmt.listOccurrences body
  | .switch subject cases default =>
      subject.occurrences ++ Stmt.branchOccurrences cases ++ Stmt.optionOccurrences default
  | .conditional _ body => Stmt.listOccurrences body

def Stmt.listOccurrences : List Stmt → List Occurrence
  | [] => []
  | stmt :: rest => stmt.occurrences ++ Stmt.listOccurrences rest

def Stmt.optionOccurrences : Option (List Stmt) → List Occurrence
  | none => []
  | some body => Stmt.listOccurrences body

def Stmt.branchOccurrences : List Branch → List Occurrence
  | [] => []
  | .mk guard body :: rest =>
      guard.occurrences ++ Stmt.listOccurrences body ++ Stmt.branchOccurrences rest

end

def Param.occurrences (param : Param) : List Occurrence :=
  param.type.occurrences ++ ⟨.parameter, param.name⟩ :: Expr.optionOccurrences param.default

mutual

def Member.occurrences : Member → List Occurrence
  | .importScript _ => []
  | .variable decl => decl.occurrences
  | .inferred decl => decl.occurrences
  | .autoProperty property =>
      property.type.occurrences ++ ⟨.property, property.name⟩ ::
        Expr.optionOccurrences property.init
  | .fullProperty property =>
      property.type.occurrences ++ ⟨.property, property.name⟩ ::
        (Stmt.optionOccurrences property.getter ++ Stmt.optionOccurrences property.setter)
  | .function decl =>
      (match decl.returnType with
        | none => []
        | some type => type.occurrences) ++
        ⟨.function, decl.name⟩ ::
          (decl.params.flatMap Param.occurrences ++ Stmt.listOccurrences decl.body)
  | .event decl =>
      ⟨.event, decl.name⟩ ::
        (decl.params.flatMap Param.occurrences ++ Stmt.listOccurrences decl.body)
  | .state name _ members => ⟨.state, name⟩ :: Member.listOccurrences members
  | .struct decl => ⟨.struct, decl.name⟩ :: decl.members.flatMap VariableDecl.occurrences
  | .group name _ members => ⟨.group, name⟩ :: Member.listOccurrences members
  | .conditional _ body => Member.listOccurrences body

def Member.listOccurrences : List Member → List Occurrence
  | [] => []
  | member :: rest => member.occurrences ++ Member.listOccurrences rest

end

def Script.occurrences (script : Script) : List Occurrence :=
  ⟨.scriptName, script.name⟩ :: ⟨.scriptParent, script.parent⟩ ::
    Member.listOccurrences script.members

/-- The diagnostics of the ill-formed identifiers, in source order. -/
def SyntaxTree.identifierDiagnostics (tree : SyntaxTree) : List Diagnostic :=
  tree.script.occurrences.filterMap Occurrence.diagnostic?

end PapyrusWriter
