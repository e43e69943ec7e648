import PapyrusWriter.Json.Decoder
/-!
# Variants with their content beside their name

An object with two members, in any order, or a list of two items: the name of a variant and its
content. Content that stands before the name is kept until the name is known.
-/

namespace PapyrusWriter.Json

set_option autoImplicit false

/-- How the content of a variant is read, and the value of a variant without content. -/
structure Payload (α : Type) where
  content : Decoder α
  absent : Option α

/-- The names of the two members, and what messages call the type. -/
structure AdjacentKeys where
  name : String
  tag : String
  content : String

/-- Which of the two members a key names. -/
inductive AdjacentKey where
  | tag
  | content
deriving DecidableEq

namespace AdjacentKeys

def expected (keys : AdjacentKeys) : String :=
  "adjacently tagged enum " ++ keys.name

def find? (keys : AdjacentKeys) (name : String) : Option AdjacentKey :=
  if name = keys.tag then some .tag
  else if name = keys.content then some .content
  else none

/-- The name of a member. -/
def text (keys : AdjacentKeys) : AdjacentKey → String
  | .tag => keys.tag
  | .content => keys.content

end AdjacentKeys

namespace Decoder

open Reader

variable {α : Type}

/-- Content that must be `null`; `name` is what messages call it. -/
def nothing (name : String) (value : α) : Decoder α where
  text depth := atToken fun ch =>
    if ch = 'n' then do
      advance
      word "ull".toList
      pure value
    else if ch = '[' then
      inList depth fun _ => failShape (.invalidType .sequence name)
    else if ch = '{' then
      inObject depth fun _ => failShape (.invalidType .map name)
    else wrongType name
  value
    | .null => .ok value
    | json => .error (.invalidType json.found name)

/-- The next of the two members, after its colon; other members are skipped. -/
def nextAdjacent (keys : AdjacentKeys) : Nat → Bool → Reader (Option AdjacentKey)
  | 0, _ => failNext .endInObject
  | fuel + 1, first => do
      if ← nextKey first then
        let name ← key
        match keys.find? name with
        | some found => pure (some found)
        | none =>
            colon
            skip
            nextAdjacent keys fuel false
      else pure none

/-- No further member may follow. -/
def lastAdjacent (keys : AdjacentKeys) (value : α) : Reader α := do
  match ← nextAdjacent keys (← fuel) false with
  | none => pure value
  | some found => failShape (.duplicateField (keys.text found))

/-- The value of a variant whose content is not given. -/
def withoutContent (keys : AdjacentKeys) (payload : Payload α) : Except ShapeFault α :=
  match payload.absent with
  | some value => .ok value
  | none => .error (.missingField keys.content)

/-- The members of an object that is entered already. -/
def adjacentMembers (keys : AdjacentKeys) (variants : List (String × Payload α)) (depth : Nat) :
    Reader α := do
  match ← nextAdjacent keys (← fuel) true with
  | none => failShape (.missingField keys.tag)
  | some .tag =>
      colon
      let payload ← (enum variants).text depth
      match ← nextAdjacent keys (← fuel) false with
      | none => ofExcept (withoutContent keys payload)
      | some .tag => failShape (.duplicateField keys.tag)
      | some .content =>
          colon
          lastAdjacent keys (← payload.content.text depth)
  | some .content =>
      colon
      let json ← Reader.value depth
      match ← nextAdjacent keys (← fuel) false with
      | none => failShape (.missingField keys.tag)
      | some .content => failShape (.duplicateField keys.content)
      | some .tag =>
          colon
          let payload ← (enum variants).text depth
          lastAdjacent keys (← ofExcept (payload.content.value json))

/-- The items of a list that is entered already. -/
def adjacentItems (keys : AdjacentKeys) (variants : List (String × Payload α)) (depth : Nat) :
    Reader α := do
  if ← nextItem true then
    let payload ← (enum variants).text depth
    if ← nextItem false then payload.content.text depth
    else failShape (.invalidLength 1 keys.expected)
  else failShape (.invalidLength 0 keys.expected)

/-- No further member may follow. -/
def lastAdjacentValue (keys : AdjacentKeys) (value : α) :
    List (AdjacentKey × Json) → Except ShapeFault α
  | [] => .ok value
  | (found, _) :: _ => .error (.duplicateField (keys.text found))

/-- The two members of an object value, after the others are dropped. -/
def adjacentMembersValue (keys : AdjacentKeys) (variants : List (String × Payload α)) :
    List (AdjacentKey × Json) → Except ShapeFault α
  | [] => .error (.missingField keys.tag)
  | (.tag, tag) :: rest => do
      let payload ← (enum variants).value tag
      match rest with
      | [] => withoutContent keys payload
      | (.tag, _) :: _ => .error (.duplicateField keys.tag)
      | (.content, json) :: rest =>
          lastAdjacentValue keys (← payload.content.value json) rest
  | [(.content, _)] => .error (.missingField keys.tag)
  | (.content, _) :: (.content, _) :: _ => .error (.duplicateField keys.content)
  | (.content, json) :: (.tag, tag) :: rest => do
      let payload ← (enum variants).value tag
      lastAdjacentValue keys (← payload.content.value json) rest

/-- The members of an object value that count. -/
def relevant (keys : AdjacentKeys) (members : List (String × Json)) : List (AdjacentKey × Json) :=
  members.filterMap fun (name, json) => (keys.find? name).map fun found => (found, json)

/-- A type with variants whose content stands beside their name. -/
def adjacent (keys : AdjacentKeys) (variants : List (String × Payload α)) : Decoder α where
  text depth := atToken fun ch =>
    if ch = '{' then inObject depth fun depth => adjacentMembers keys variants depth
    else if ch = '[' then inList depth fun depth => adjacentItems keys variants depth
    else wrongType keys.expected
  value
    | .obj members => adjacentMembersValue keys variants (relevant keys members)
    | .arr [] => .error (.invalidLength 0 keys.expected)
    | .arr (tag :: items) => do
        let payload ← (enum variants).value tag
        match items with
        | [] => .error (.invalidLength 1 keys.expected)
        | json :: rest => do
            let value ← payload.content.value json
            if rest.isEmpty then .ok value
            else .error (.invalidLength (2 + rest.length) (Fields.elements 2 ++ " in sequence"))
    | json => .error (.invalidType json.found keys.expected)

end Decoder

end PapyrusWriter.Json
