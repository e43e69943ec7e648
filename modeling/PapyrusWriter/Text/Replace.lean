/-!
# Replacement of a text

`replaceAll old new text` replaces the occurrences of `old` that are met from left to right, each
one starting after the end of the one before it. It works on character lists, where the recursion
follows the text; `skip` counts the characters of a matched occurrence that are still to be passed
over.
-/

namespace PapyrusWriter.Text

set_option autoImplicit false

/-- The text with every occurrence of `old` replaced, after `skip` characters are dropped. -/
def replaceFrom (old new : List Char) : Nat → List Char → List Char
  | _, [] => []
  | 0, c :: cs =>
      if old.isPrefixOf (c :: cs) then new ++ replaceFrom old new (old.length - 1) cs
      else c :: replaceFrom old new 0 cs
  | skip + 1, _ :: cs => replaceFrom old new skip cs

/-- The text with every occurrence of the non-empty `old` replaced, leftmost first. -/
def replaceAll (old new text : String) : String :=
  String.ofList (replaceFrom old.toList new.toList 0 text.toList)

/-- The text without its double quotes. -/
def stripQuotes (text : String) : String :=
  String.ofList (text.toList.filter (· ≠ '"'))

end PapyrusWriter.Text
