import PapyrusWriter.Json.Text
/-!
# Decoders

A decoder reads a value of a type from a text, and also from a JSON value that was read before. The
two ways accept the same shapes and differ in where an error is placed: a text has places, a value
has none.

`Decoder.record` reads the fields of a structure from an object, in any order, or from a list, in
the order of the fields. `Decoder.tagged` reads the variants of an inductive type, told apart by the
member `kind`: the whole object is kept first, and the fields are then read from what was kept.
-/

namespace PapyrusWriter.Json

set_option autoImplicit false

/-- How to read a type from a text, where so many levels may still be opened, and from a value. -/
structure Decoder (α : Type) where
  text : Nat → Reader α
  value : Json → Except ShapeFault α

namespace Reader

variable {α : Type}

/-- Lifts the outcome of reading a value. -/
def ofExcept : Except ShapeFault α → Reader α
  | .ok a => pure a
  | .error fault => failShape fault

/-- Reads the scalar that stands where something else is expected, and fails. -/
def wrongType (expected : String) : Reader α := do
  match ← peek with
  | some 'n' =>
      advance
      word "ull".toList
      failShape (.invalidType .null expected)
  | some 't' =>
      advance
      word "rue".toList
      failShape (.invalidType (.bool true) expected)
  | some 'f' =>
      advance
      word "alse".toList
      failShape (.invalidType (.bool false) expected)
  | some '-' =>
      advance
      let n ← number false
      failShape (.invalidType (.number n) expected)
  | some '"' =>
      advance
      let text ← string
      failShape (.invalidType (.str text) expected)
  | some '[' => failShape (.invalidType .sequence expected)
  | some '{' => failShape (.invalidType .map expected)
  | some ch =>
      if ch.isDigit then
        let n ← number true
        failShape (.invalidType (.number n) expected)
      else failNext .expectedValue
  | none => failNext .expectedValue

/-- Reads from the next token on, which must exist. -/
def atToken (read : Char → Reader α) : Reader α := do
  match ← token with
  | none => failNext .endInValue
  | some ch => located (read ch)

/-- The inside of a list, between its brackets. -/
def inList (depth : Nat) (body : Nat → Reader α) : Reader α :=
  deeper depth fun depth => do
    advance
    closing (body depth) listEnd

/-- The inside of an object, between its brackets. -/
def inObject (depth : Nat) (body : Nat → Reader α) : Reader α :=
  deeper depth fun depth => do
    advance
    closing (body depth) objectEnd

end Reader

namespace Decoder

open Reader

variable {α β : Type}

def map (f : α → β) (decoder : Decoder α) : Decoder β :=
  ⟨fun depth => f <$> decoder.text depth, fun json => f <$> decoder.value json⟩

/-- The decoder that accepts nothing. It stands where no more levels can follow. -/
def fail : Decoder α :=
  ⟨fun _ => failNext .tooDeep, fun json => .error (.invalidType json.found "nothing")⟩

/-! ## Scalars -/

def string : Decoder String where
  text _ := atToken fun ch =>
    if ch = '"' then do
      advance
      Reader.string
    else wrongType "a string"
  value
    | .str text => .ok text
    | json => .error (.invalidType json.found "a string")

def bool : Decoder Bool where
  text _ := atToken fun ch =>
    if ch = 't' then do
      advance
      word "rue".toList
      pure true
    else if ch = 'f' then do
      advance
      word "alse".toList
      pure false
    else wrongType "a boolean"
  value
    | .bool value => .ok value
    | json => .error (.invalidType json.found "a boolean")

/-- The value `null`. -/
def unit : Decoder Unit where
  text _ := atToken fun ch =>
    if ch = 'n' then do
      advance
      word "ull".toList
    else wrongType "unit"
  value
    | .null => .ok ()
    | .obj [] => .ok ()
    | json => .error (.invalidType json.found "unit")

/-! ## Options and lists -/

/-- A value or `null`. -/
def option (decoder : Decoder α) : Decoder (Option α) where
  text depth := do
    match ← token with
    | some 'n' =>
        advance
        word "ull".toList
        pure none
    | _ => some <$> decoder.text depth
  value
    | .null => .ok none
    | json => some <$> decoder.value json

/-- The items of a list that is entered already. -/
def itemsText (read : Reader α) : Nat → Bool → Reader (List α)
  | 0, _ => failNext .endInList
  | fuel + 1, first => do
      if ← nextItem first then
        let item ← read
        return item :: (← itemsText read fuel false)
      else pure []

/-- The items of a list value. -/
def itemsValue (read : Json → Except ShapeFault α) : List Json → Except ShapeFault (List α)
  | [] => .ok []
  | json :: rest => do
      let item ← read json
      return item :: (← itemsValue read rest)

def list (decoder : Decoder α) : Decoder (List α) where
  text depth := atToken fun ch =>
    if ch = '[' then
      inList depth fun depth => do itemsText (decoder.text depth) (← fuel) true
    else wrongType "a sequence"
  value
    | .arr items => itemsValue decoder.value items
    | json => .error (.invalidType json.found "a sequence")

/-! ## Names of variants -/

/-- The variant of a name. -/
def choose (variants : List (String × α)) (name : String) : Except ShapeFault α :=
  match variants.lookup name with
  | some variant => .ok variant
  | none => .error (.unknownVariant name (variants.map Prod.fst))

/-- The name of a variant. Kept values may also give its number. -/
def variantName (variants : List (String × α)) : Decoder α where
  text _ := atToken fun ch =>
    if ch = '"' then do
      advance
      ofExcept (choose variants (← Reader.string))
    else wrongType "variant identifier"
  value
    | .str name => choose variants name
    | .number (.natural n) =>
        match variants[n]? with
        | some (_, variant) => .ok variant
        | none =>
            .error (.invalidValue (.number (.natural n))
              ("variant index 0 <= i < " ++ toString variants.length))
    | json => .error (.invalidType json.found "variant identifier")

/-- A type whose variants have no fields: the name, or an object that maps the name to `null`. -/
def enum (variants : List (String × α)) : Decoder α where
  text depth := do
    match ← token with
    | none => failNext .endInValue
    | some '"' => (variantName variants).text depth
    | some '{' =>
        deeper depth fun depth => do
          advance
          let variant ← (variantName variants).text depth
          colon
          Decoder.unit.text depth
          match ← token with
          | none => failHere .endInObject
          | some '}' =>
              advance
              pure variant
          | some _ => failHere .expectedValue
    | some _ => failNext .expectedValue
  value
    | .str name => choose variants name
    | .obj [(name, json)] => do
        let variant ← choose variants name
        Decoder.unit.value json
        pure variant
    | .obj _ => .error (.invalidValue .map "map with a single key")
    | json => .error (.invalidType json.found "string or map")

end Decoder

/-! ## Records -/

/-- The fields of a record: a name, a decoder, and the value of a field that is not given. -/
inductive Fields : List Type → Type 1 where
  | nil : Fields []
  | cons {β : Type} {types : List Type} (name : String) (decoder : Decoder β) (absent : Option β)
      (rest : Fields types) : Fields (β :: types)

/-- The values of fields, as far as they are known. -/
def Slots : List Type → Type
  | [] => Unit
  | β :: types => Option β × Slots types

/-- Functions of the values of all fields. -/
def Builder : List Type → Type → Type
  | [], α => α
  | β :: types, α => β → Builder types α

namespace Fields

open Reader

variable {α : Type}

/-- The count of the fields, as messages name it. -/
def elements (count : Nat) : String :=
  if count = 1 then "1 element" else toString count ++ " elements"

/-- No field is known. -/
def empty : (types : List Type) → Slots types
  | [] => ()
  | _ :: types => (none, empty types)

/-- Builds the record once all members of an object are read. -/
def finish : {types : List Type} → Fields types → Slots types → Builder types α →
    Except ShapeFault α
  | _, .nil, _, build => .ok build
  | _, .cons name _ absent rest, (slot, slots), build =>
      match slot <|> absent with
      | some field => finish rest slots (build field)
      | none => .error (.missingField name)

/-- Reads the member `key` from a text, from the colon on; `none` if there is no such field. -/
def putText : {types : List Type} → Fields types → String → Nat → Slots types →
    Reader (Option (Slots types))
  | _, .nil, _, _, _ => pure none
  | _, .cons name decoder _ rest, key, depth, (slot, slots) =>
      if key = name then
        match slot with
        | some _ => failShape (.duplicateField name)
        | none => do
            colon
            let field ← decoder.text depth
            pure (some (some field, slots))
      else do
        match ← putText rest key depth slots with
        | none => pure none
        | some slots => pure (some (slot, slots))

/-- Reads the member `key` from a value; `none` if there is no such field. -/
def putValue : {types : List Type} → Fields types → String → Json → Slots types →
    Except ShapeFault (Option (Slots types))
  | _, .nil, _, _, _ => .ok none
  | _, .cons name decoder _ rest, key, json, (slot, slots) =>
      if key = name then
        match slot with
        | some _ => .error (.duplicateField name)
        | none => do
            let field ← decoder.value json
            pure (some (some field, slots))
      else do
        match ← putValue rest key json slots with
        | none => pure none
        | some slots => pure (some (slot, slots))

/-- The members of an object that is entered already. Members that are no fields are skipped. -/
def membersText {types : List Type} (fields : Fields types) (depth : Nat) :
    Nat → Bool → Slots types → Reader (Slots types)
  | 0, _, _ => failNext .endInObject
  | fuel + 1, first, slots => do
      if ← nextKey first then
        let name ← key
        match ← fields.putText name depth slots with
        | some slots => membersText fields depth fuel false slots
        | none =>
            colon
            skip
            membersText fields depth fuel false slots
      else pure slots

/-- The members of an object value. -/
def membersValue {types : List Type} (fields : Fields types) :
    List (String × Json) → Slots types → Except ShapeFault (Slots types)
  | [], slots => .ok slots
  | (name, json) :: rest, slots => do
      match ← fields.putValue name json slots with
      | some slots => membersValue fields rest slots
      | none => membersValue fields rest slots

/-- The items of a list that is entered already, one for each field; `index` fields are read. -/
def itemsText (expected : String) (depth : Nat) : {types : List Type} → Fields types → Nat → Bool →
    Builder types α → Reader α
  | _, .nil, _, _, build => pure build
  | _, .cons _ decoder absent rest, index, first, build => do
      if ← nextItem first then
        let field ← decoder.text depth
        itemsText expected depth rest (index + 1) false (build field)
      else
        match absent with
        | some field => itemsText expected depth rest (index + 1) first (build field)
        | none => failShape (.invalidLength index expected)

/-- The items of a list value, one for each field; `index` fields are read. -/
def itemsValue (expected : String) : {types : List Type} → Fields types → Nat → List Json →
    Builder types α → Except ShapeFault α
  | _, .nil, _, [], build => .ok build
  | _, .nil, index, extra, _ =>
      .error (.invalidLength (index + extra.length) (elements index ++ " in sequence"))
  | _, .cons _ decoder _ rest, index, json :: items, build => do
      let field ← decoder.value json
      itemsValue expected rest (index + 1) items (build field)
  | _, .cons _ _ absent rest, index, [], build =>
      match absent with
      | some field => itemsValue expected rest (index + 1) [] (build field)
      | none => .error (.invalidLength index expected)

end Fields

/-- A structure with named fields; `name` is what messages call it. -/
structure Record (α : Type) where
  name : String
  {types : List Type}
  fields : Fields types
  build : Builder types α

namespace Record

open Reader

variable {α : Type}

/-- What messages call the record with the count of its fields. -/
def expected (record : Record α) : String :=
  record.name ++ " with " ++ Fields.elements record.types.length

/-- A record from a value. -/
def value (record : Record α) : Json → Except ShapeFault α
  | .obj members => do
      let slots ← record.fields.membersValue members (Fields.empty record.types)
      record.fields.finish slots record.build
  | .arr items => record.fields.itemsValue record.expected 0 items record.build
  | json => .error (.invalidType json.found record.name)

def decoder (record : Record α) : Decoder α where
  text depth := atToken fun ch =>
    if ch = '{' then
      inObject depth fun depth => do
        let slots ← record.fields.membersText depth (← fuel) true (Fields.empty record.types)
        ofExcept (record.fields.finish slots record.build)
    else if ch = '[' then
      inList depth fun depth => record.fields.itemsText record.expected depth 0 true record.build
    else wrongType record.name
  value := record.value

end Record

/-- A field that must be given. -/
def Fields.required {β : Type} {types : List Type} (name : String) (decoder : Decoder β)
    (rest : Fields types) : Fields (β :: types) :=
  .cons name decoder none rest

/-- A field with a value for the case that it is not given. -/
def Fields.defaulted {β : Type} {types : List Type} (name : String) (decoder : Decoder β) (value : β)
    (rest : Fields types) : Fields (β :: types) :=
  .cons name decoder (some value) rest

/-- A field that may be missing or `null`. -/
def Fields.optional {β : Type} {types : List Type} (name : String) (decoder : Decoder β)
    (rest : Fields types) : Fields (Option β :: types) :=
  .cons name decoder.option (some none) rest

/-! ## Variants told apart by a member -/

/-- How the fields of a variant are read from what was kept of the object. -/
abbrev VariantReader (α : Type) := Json → Except ShapeFault α

namespace Decoder

open Reader

variable {α : Type}

/-- The member that tells the variant. -/
def tagKey : String := "kind"

/-- The members of an object that is entered already: the variant, and the other members. -/
def taggedMembers (variants : List (String × VariantReader α)) (depth : Nat) :
    Nat → Bool → Option (VariantReader α) → List (String × Json) → Reader (VariantReader α × Json)
  | 0, _, _, _ => failNext .endInObject
  | fuel + 1, first, tag, kept => do
      if ← nextKey first then
        let name ← key
        if name = tagKey then
          if tag.isSome then failShape (.duplicateField tagKey)
          else
            colon
            let variant ← (variantName variants).text depth
            taggedMembers variants depth fuel false (some variant) kept
        else
          colon
          let json ← Reader.value depth
          taggedMembers variants depth fuel false tag ((name, json) :: kept)
      else
        match tag with
        | some variant => pure (variant, .obj kept.reverse)
        | none => failShape (.missingField tagKey)

/-- The items of a list that is entered already: the variant, and the other items. -/
def taggedItems (variants : List (String × VariantReader α)) (depth : Nat) :
    Reader (VariantReader α × Json) := do
  if ← nextItem true then
    let variant ← (variantName variants).text depth
    return (variant, .arr (← Reader.items depth false))
  else failShape (.missingField tagKey)

/-- The variant and the other members of an object value. -/
def taggedValue (variants : List (String × VariantReader α)) :
    List (String × Json) → Option (VariantReader α) → List (String × Json) →
      Except ShapeFault (VariantReader α × Json)
  | [], some variant, kept => .ok (variant, .obj kept.reverse)
  | [], none, _ => .error (.missingField tagKey)
  | (name, json) :: rest, tag, kept =>
      if name = tagKey then
        if tag.isSome then .error (.duplicateField tagKey)
        else do
          let variant ← (variantName variants).value json
          taggedValue variants rest (some variant) kept
      else taggedValue variants rest tag ((name, json) :: kept)

/-- A type with variants that the member `kind` tells apart, or the first item of a list. -/
def tagged (name : String) (variants : List (String × VariantReader α)) : Decoder α where
  text depth := do
    let (variant, json) ← atToken fun ch =>
      if ch = '{' then
        inObject depth fun depth => do taggedMembers variants depth (← fuel) true none []
      else if ch = '[' then inList depth fun depth => taggedItems variants depth
      else wrongType ("internally tagged enum " ++ name)
    ofExcept (variant json)
  value
    | .obj members => do
        let (variant, json) ← taggedValue variants members none []
        variant json
    | .arr [] => .error (.missingField tagKey)
    | .arr (tag :: items) => do
        let variant ← (variantName variants).value tag
        variant (.arr items)
    | json => .error (.invalidType json.found ("internally tagged enum " ++ name))

end Decoder

end PapyrusWriter.Json
