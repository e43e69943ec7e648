/-!
# Games and the features they support

The baseline game supports the common language only; every feature listed here needs the extended
game.
-/

namespace PapyrusWriter

set_option autoImplicit false

/-- The games a script can be generated for. -/
inductive Game where
  | skyrimSE
  | fallout4
deriving DecidableEq, Inhabited

namespace Game

def name : Game → String
  | .skyrimSE => "SkyrimSE"
  | .fallout4 => "FO4"

/-- All games, the baseline game first. -/
def all : List Game := [.skyrimSE, .fallout4]

/-- The game of a name, which is compared exactly. -/
def ofName? (name : String) : Option Game :=
  all.find? fun game => game.name = name

end Game

/-- Constructs that not every game supports. -/
inductive Feature where
  | betaOnlyScript
  | debugOnlyScript
  | constScript
  | nativeScript
  | constModifier
  | mandatoryModifier
  | inferredVariable
  | structDecl
  | groupDecl
  | structInitializer
  | newStruct
deriving DecidableEq, Inhabited

namespace Feature

/-- The construct as the source names it. -/
def construct : Feature → String
  | .betaOnlyScript => "beta"
  | .debugOnlyScript => "debug"
  | .constScript => "const"
  | .nativeScript => "native"
  | .constModifier => "const"
  | .mandatoryModifier => "mandatory"
  | .inferredVariable => "var"
  | .structDecl => "struct"
  | .groupDecl => "group"
  | .structInitializer => "struct initializer"
  | .newStruct => "new struct"

/-- The games that support the feature. -/
def supportedGames (_ : Feature) : List Game := [.fallout4]

/-- The first game that supports the feature. -/
def requiredGame (feature : Feature) : Game :=
  feature.supportedGames.headD .fallout4

end Feature

/-- Whether the game supports a feature. -/
def Game.supports (game : Game) (feature : Feature) : Bool :=
  feature.supportedGames.contains game

end PapyrusWriter
