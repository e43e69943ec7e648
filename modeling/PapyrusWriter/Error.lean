import PapyrusWriter.Game
import PapyrusWriter.Host.SystemError
/-!
# Why a script cannot be generated

Each error is a cause; its code and its text are in one place.
-/

namespace PapyrusWriter

set_option autoImplicit false

/-- What is wrong with a property. -/
inductive PropertyFault where
  | noAccessor
  | voidType
deriving DecidableEq

namespace PropertyFault

def message : PropertyFault → String
  | .noAccessor => "declares neither Get nor Set"
  | .voidType => "declared type cannot be void"

end PropertyFault

/-- What is wrong with an array or struct initializer. -/
inductive InitializerFault where
  | misplacedArray
  | misplacedStruct
  | arrayForScalar (name : String)
  | untypedArray (name : String)
  | structForArray (name : String)
  | untypedStruct (name : String)
deriving DecidableEq

namespace InitializerFault

def message : InitializerFault → String
  | .misplacedArray => "array literal is only allowed as a variable initializer"
  | .misplacedStruct => "struct literal is only allowed as a variable initializer"
  | .arrayForScalar name => "array literal assigned to non-array variable \"" ++ name ++ "\""
  | .untypedArray name => "cannot infer element type of array literal for \"" ++ name ++ "\""
  | .structForArray name => "struct literal assigned to array variable \"" ++ name ++ "\""
  | .untypedStruct name => "struct literal for \"" ++ name ++ "\" needs a declared struct type"

end InitializerFault

inductive TranspileError where
  | unknownGame (name : String)
  | unsupported (feature : Feature)
  | includeNotFound (path : String)
  | includeUnreadable (path : String) (cause : SystemError)
  | malformedProperty (name : String) (fault : PropertyFault)
  | malformedInitializer (fault : InitializerFault)
deriving DecidableEq

namespace TranspileError

def code : TranspileError → String
  | .unknownGame _ => "INVALID_CONFIGURATION"
  | .unsupported _ => "UNSUPPORTED_FEATURE"
  | .includeNotFound _ => "INCLUDE_NOT_FOUND"
  | .includeUnreadable _ _ => "INCLUDE_READ"
  | .malformedProperty _ _ => "MALFORMED_PROPERTY"
  | .malformedInitializer _ => "MALFORMED_INITIALIZER"

def message : TranspileError → String
  | .unknownGame name =>
      "unknown game \"" ++ name ++ "\", expected one of: " ++
        ", ".intercalate (Game.all.map Game.name)
  | .unsupported feature =>
      "unsupported feature \"" ++ feature.construct ++ "\": requires game " ++
        feature.requiredGame.name
  | .includeNotFound path => "include not found: " ++ path
  | .includeUnreadable path cause =>
      "include \"" ++ path ++ "\" could not be read: " ++ cause.message
  | .malformedProperty name fault => "malformed property \"" ++ name ++ "\": " ++ fault.message
  | .malformedInitializer fault => "malformed initializer: " ++ fault.message

end TranspileError

/-- The game of a name, or the error that there is none. -/
def Game.parse (name : String) : Except TranspileError Game :=
  match Game.ofName? name with
  | some game => .ok game
  | none => .error (.unknownGame name)

/-- Fails unless the game supports the feature. -/
def Game.require (game : Game) (feature : Feature) : Except TranspileError Unit :=
  if game.supports feature then .ok () else .error (.unsupported feature)

end PapyrusWriter
