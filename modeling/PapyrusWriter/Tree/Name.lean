import PapyrusWriter.Text.Replace
/-!
# Names

An identifier keeps the text of the source, with `::` between its namespaces. The generated script
spells a namespace with one colon, so `normalized` replaces `::` by `:`.
-/

namespace PapyrusWriter

set_option autoImplicit false

/-- A name as written in the source. -/
structure Identifier where
  raw : String
deriving DecidableEq, Inhabited

namespace Identifier

/-- The name in the generated script: `::` becomes `:`. -/
def normalized (name : Identifier) : String :=
  Text.replaceAll "::" ":" name.raw

end Identifier

/-- A dotted name such as `self.Count`. -/
structure QualifiedName where
  segments : List Identifier
deriving DecidableEq, Inhabited

/-- The pieces of a character list between the occurrences of `mark`. -/
def splitAtMark (mark : Char) : List Char → List (List Char)
  | [] => [[]]
  | c :: cs =>
      if c = mark then [] :: splitAtMark mark cs
      else
        match splitAtMark mark cs with
        | [] => [[c]]
        | piece :: rest => (c :: piece) :: rest

namespace QualifiedName

/-- The name with the segments between the dots of the text. -/
def ofString (text : String) : QualifiedName :=
  ⟨(splitAtMark '.' text.toList).map fun piece => ⟨String.ofList piece⟩⟩

/-- The source text of the name. -/
def raw (name : QualifiedName) : String :=
  ".".intercalate (name.segments.map Identifier.raw)

/-- The name in the generated script. -/
def normalized (name : QualifiedName) : String :=
  ".".intercalate (name.segments.map Identifier.normalized)

end QualifiedName

/-- A type: a name, or an array of it. -/
structure TypeRef where
  name : Identifier
  array : Bool
deriving DecidableEq, Inhabited

namespace TypeRef

/-- The type in the generated script. -/
def text (type : TypeRef) : String :=
  type.name.normalized ++ if type.array then "[]" else ""

/-- The name `void` in any ASCII case, not as an array. -/
def isVoid (type : TypeRef) : Bool :=
  !type.array && type.name.raw.toList.map Char.toLower == "void".toList

/-- The type of one element. -/
def element (type : TypeRef) : TypeRef :=
  { type with array := false }

/-- The type of a plain name. -/
def named (name : String) : TypeRef :=
  ⟨⟨name⟩, false⟩

end TypeRef

end PapyrusWriter
