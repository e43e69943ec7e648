import PapyrusWriter.Render.Stmt
import PapyrusWriter.Tree.Member
/-!
# Members and scripts as lines
-/

namespace PapyrusWriter

set_option autoImplicit false

/-- The text of a parameter. -/
def Param.render (game : Game) (param : Param) : Except TranspileError String := do
  let head := param.type.text ++ " " ++ param.name.normalized
  match param.default with
  | none => pure head
  | some value =>
      let text ← value.render game
      pure (head ++ " = " ++ text)

/-- The texts of parameters, up to the first error. -/
def Param.renderList (game : Game) : List Param → Except TranspileError (List String)
  | [] => pure []
  | param :: rest => do
      let text ← param.render game
      let texts ← Param.renderList game rest
      pure (text :: texts)

/-- A name with its parameters in parentheses. -/
def signature (game : Game) (name : Identifier) (params : List Param) :
    Except TranspileError String := do
  let texts ← Param.renderList game params
  pure (name.normalized ++ "(" ++ ", ".intercalate texts ++ ")")

namespace FunctionModifier

def text : FunctionModifier → String
  | .native => "Native"
  | .global => "Global"

end FunctionModifier

namespace GroupFlag

def text : GroupFlag → String
  | .collapsed => "Collapsed"
  | .collapsedOnRef => "CollapsedOnRef"
  | .collapsedOnBase => "CollapsedOnBase"

end GroupFlag

namespace ScriptFlag

/-- The feature a flag needs, if it needs one. -/
def feature? : ScriptFlag → Option Feature
  | .hidden => none
  | .conditional => none
  | .beta => some .betaOnlyScript
  | .debug => some .debugOnlyScript
  | .const => some .constScript
  | .native => some .nativeScript

def text : ScriptFlag → String
  | .hidden => "Hidden"
  | .conditional => "Conditional"
  | .beta => "BetaOnly"
  | .debug => "DebugOnly"
  | .const => "Const"
  | .native => "Native"

/-- Fails unless the game supports the flag. -/
def check (game : Game) (flag : ScriptFlag) : Except TranspileError Unit :=
  match flag.feature? with
  | none => pure ()
  | some feature => game.require feature

end ScriptFlag

/-- Words that follow a line's head, each after a blank. -/
def trailing (words : List String) : String :=
  String.join (words.map fun word => " " ++ word)

def FunctionDecl.header (game : Game) (decl : FunctionDecl) : Except TranspileError String := do
  let result :=
    match decl.returnType with
    | none => ""
    | some type => if type.isVoid then "" else type.text ++ " "
  let rest ← signature game decl.name decl.params
  pure (result ++ "Function " ++ rest ++ trailing (decl.modifiers.map FunctionModifier.text))

def FunctionDecl.render (target : Target) (decl : FunctionDecl) : Renderer :=
  Renderer.emitLine (decl.header target.game) >=>
  target.indented (Stmt.renderList target decl.body) >=>
  Renderer.emit "EndFunction" >=>
  Renderer.emit ""

def EventDecl.render (target : Target) (decl : EventDecl) : Renderer :=
  Renderer.emitLine (do
    let rest ← signature target.game decl.name decl.params
    pure ("Event " ++ rest)) >=>
  target.indented (Stmt.renderList target decl.body) >=>
  Renderer.emit "EndEvent" >=>
  Renderer.emit ""

namespace PropertyModifier

/-- The words that make a property automatic. -/
def autoText : Option PropertyModifier → String
  | none => "Auto"
  | some .readOnly => "AutoReadOnly"
  | some .conditional => "Auto Conditional"
  | some .hidden => "Auto Hidden"

end PropertyModifier

def AutoProperty.line (game : Game) (property : AutoProperty) : Except TranspileError String := do
  let value ←
    match property.init with
    | none => pure ""
    | some init => do
        let text ← init.render game
        pure (" = " ++ text)
  if property.constant then
    game.require .constModifier
  if property.mandatory then
    game.require .mandatoryModifier
  pure (property.type.text ++ " Property " ++ property.name.normalized ++ value ++ " " ++
    PropertyModifier.autoText property.modifier ++ (if property.constant then " Const" else "") ++
    (if property.mandatory then " Mandatory" else ""))

/-- A property needs an accessor and a type. -/
def FullProperty.check (property : FullProperty) : Except TranspileError Unit :=
  if property.getter.isNone && property.setter.isNone then
    .error (.malformedProperty property.name.normalized .noAccessor)
  else if property.type.isVoid then
    .error (.malformedProperty property.name.normalized .voidType)
  else .ok ()

/-- Writes an accessor, if it is given. -/
def renderAccessor (target : Target) (header : String) : Option (List Stmt) → Renderer
  | none => Renderer.skip
  | some body =>
      Renderer.emit header >=>
      target.indented (Stmt.renderList target body) >=>
      Renderer.emit "EndFunction"

def FullProperty.render (target : Target) (property : FullProperty) : Renderer :=
  Renderer.check property.check >=>
  Renderer.emit (property.type.text ++ " Property " ++ property.name.normalized) >=>
  renderAccessor target (property.type.text ++ " Function Get()") property.getter >=>
  renderAccessor target ("Function Set(" ++ property.type.text ++ " value)") property.setter >=>
  Renderer.emit "EndProperty"

/-- Writes the fields of a struct. -/
def VariableDecl.renderList (game : Game) : List VariableDecl → Renderer
  | [] => Renderer.skip
  | decl :: rest => decl.render game >=> VariableDecl.renderList game rest

def StructDecl.render (target : Target) (decl : StructDecl) : Renderer :=
  Renderer.check (target.game.require .structDecl) >=>
  Renderer.emit ("Struct " ++ decl.name.normalized) >=>
  target.indented (VariableDecl.renderList target.game decl.members) >=>
  Renderer.emit "EndStruct"

/-- The line of an import. -/
def importLine (path : String) : String :=
  "Import " ++ Text.replaceAll "::" ":" (Text.stripQuotes path)

mutual

/-- Writes a member. -/
def Member.render (target : Target) : Member → Renderer
  | .importScript path => Renderer.emit (importLine path)
  | .variable decl => decl.render target.game
  | .inferred decl => decl.render target.game
  | .autoProperty property => Renderer.emitLine (property.line target.game)
  | .fullProperty property => property.render target
  | .function decl => decl.render target
  | .event decl => decl.render target
  | .state name auto members =>
      Renderer.emit ((if auto then "Auto " else "") ++ "State " ++ name.normalized) >=>
      target.indented (Member.renderList target members) >=>
      Renderer.emit "EndState"
  | .struct decl => decl.render target
  | .group name flags members =>
      Renderer.check (target.game.require .groupDecl) >=>
      Renderer.emit ("Group " ++ name.normalized ++ trailing (flags.map GroupFlag.text)) >=>
      target.indented (Member.renderList target members) >=>
      Renderer.emit "EndGroup"
  | .conditional name body => target.whenEnabled name (Member.renderList target body)

/-- Writes members, one after the other. -/
def Member.renderList (target : Target) : List Member → Renderer
  | [] => Renderer.skip
  | member :: rest => member.render target >=> Member.renderList target rest

end

/-- Fails unless the game supports all flags. -/
def ScriptFlag.checkAll (game : Game) : List ScriptFlag → Except TranspileError Unit
  | [] => pure ()
  | flag :: rest => do
      flag.check game
      ScriptFlag.checkAll game rest

/-- The first line of a script. -/
def Script.header (game : Game) (script : Script) : Except TranspileError String := do
  ScriptFlag.checkAll game script.flags
  pure ("ScriptName " ++ script.name.normalized ++ " extends " ++ script.parent.normalized ++
    trailing (script.flags.map ScriptFlag.text))

/-- Writes a script. -/
def Script.render (target : Target) (script : Script) : Renderer :=
  Renderer.emitLine (script.header target.game) >=>
  Renderer.emit "" >=>
  Member.renderList target script.members

/-- The text of a script for a game, under the directives of a table. -/
def Script.generate (game : Game) (directives : DirectiveTable) (script : Script) :
    Render String := do
  let page ← script.render ⟨game, directives, .flat⟩ Page.blank
  pure page.text

end PapyrusWriter
