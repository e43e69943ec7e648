import PapyrusWriter.Yaml.Fault
/-!
# Tokens of YAML texts
-/

namespace PapyrusWriter.Yaml

set_option autoImplicit false

/-- How a scalar is written. -/
inductive Style where
  | plain
  | quoted
  | block
deriving DecidableEq

/-- The characters of a tag. An escape that stands for no character is `none`. -/
abbrev TagText := List (Option Char)

namespace TagText

def ofString (text : String) : TagText := text.toList.map some

/-- The tag as a text, if all of it stands for characters. -/
def text? (tag : TagText) : Option String := (tag.mapM id).map String.ofList

end TagText

inductive TokenKind where
  | streamEnd
  | versionDirective (major minor : Nat)
  | tagDirective (handle : String) (lead : TagText)
  | documentStart
  | documentEnd
  | blockSequenceStart
  | blockMappingStart
  | blockEnd
  | flowSequenceStart
  | flowSequenceEnd
  | flowMappingStart
  | flowMappingEnd
  | blockEntry
  | flowEntry
  | key
  | value
  | alias (name : String)
  | anchor (name : String)
  | tag (handle : String) (suffix : TagText)
  | scalar (text : String) (style : Style)
deriving DecidableEq

/-- A token from its first character to the place after its last one. -/
structure Token where
  kind : TokenKind
  start : Mark
  stop : Mark
deriving DecidableEq

end PapyrusWriter.Yaml
