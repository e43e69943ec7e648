import PapyrusWriter.Json.Scalar
/-!
# Reading and skipping values

`value` keeps what it reads. `skip` passes over a value that nobody asks for; it checks less:
neither the depth, nor the range of numbers, nor the pairing of surrogates.
-/

namespace PapyrusWriter.Json.Reader

set_option autoImplicit false

/-! ## Lists and objects -/

/-- Whether the list has a further item; the cursor then stands before it. -/
def nextItem (first : Bool) : Reader Bool := do
  match ← token with
  | none => failNext .endInList
  | some ch =>
      if ch = ']' then pure false
      else if first then pure true
      else if ch = ',' then
        advance
        match ← token with
        | none => failNext .endInValue
        | some ']' => failNext .trailingComma
        | some _ => pure true
      else failNext .expectedListEnd

/-- Whether the object has a further member; the cursor then stands before the quote of its key. -/
def nextKey (first : Bool) : Reader Bool := do
  match ← token with
  | none => failNext .endInObject
  | some ch =>
      if ch = '}' then pure false
      else if first then
        if ch = '"' then pure true else failNext .keyNotString
      else if ch = ',' then
        advance
        match ← token with
        | none => failNext .endInValue
        | some '"' => pure true
        | some '}' => failNext .trailingComma
        | some _ => failNext .keyNotString
      else failNext .expectedObjectEnd

/-- A key, from its quote on. -/
def key : Reader String := do
  advance
  string

/-- The colon after a key. -/
def colon : Reader Unit := do
  match ← token with
  | none => failNext .endInObject
  | some ':' => advance
  | some _ => failNext .expectedColon

/-- The end of a list. -/
def listEnd : Reader Unit := do
  match ← token with
  | none => failNext .endInList
  | some ']' => advance
  | some ',' =>
      advance
      match ← token with
      | some ']' => failNext .trailingComma
      | _ => failNext .trailingCharacters
  | some _ => failNext .trailingCharacters

/-- The end of an object. -/
def objectEnd : Reader Unit := do
  match ← token with
  | none => failNext .endInObject
  | some '}' => advance
  | some ',' => failNext .trailingComma
  | some _ => failNext .trailingCharacters

/-! ## Values that are kept -/

mutual

/-- A value; `depth` levels may still be opened. -/
def valueAux : Nat → Nat → Reader Json
  | 0, _ => failNext .endInValue
  | fuel + 1, depth => do
      match ← token with
      | none => failNext .endInValue
      | some 'n' =>
          advance
          word "ull".toList
          pure .null
      | some 't' =>
          advance
          word "rue".toList
          pure (.bool true)
      | some 'f' =>
          advance
          word "alse".toList
          pure (.bool false)
      | some '-' =>
          advance
          return .number (← number false)
      | some '"' =>
          advance
          return .str (← string)
      | some '[' =>
          deeper depth fun depth => do
            advance
            let items ← itemsAux fuel depth true
            listEnd
            pure (.arr items)
      | some '{' =>
          deeper depth fun depth => do
            advance
            let members ← membersAux fuel depth true
            objectEnd
            pure (.obj members)
      | some ch =>
          if ch.isDigit then return .number (← number true) else failNext .expectedValue

/-- The items of a list up to its end. -/
def itemsAux : Nat → Nat → Bool → Reader (List Json)
  | 0, _, _ => failNext .endInList
  | fuel + 1, depth, first => do
      if ← nextItem first then
        let item ← valueAux fuel depth
        return item :: (← itemsAux fuel depth false)
      else pure []

/-- The members of an object up to its end. -/
def membersAux : Nat → Nat → Bool → Reader (List (String × Json))
  | 0, _, _ => failNext .endInObject
  | fuel + 1, depth, first => do
      if ← nextKey first then
        let name ← key
        colon
        let item ← valueAux fuel depth
        return (name, item) :: (← membersAux fuel depth false)
      else pure []

end

/-- A value; `depth` levels may still be opened. -/
def value (depth : Nat) : Reader Json := do
  valueAux (2 * (← fuel)) depth

/-- The items of a list that is entered already. -/
def items (depth : Nat) (first : Bool) : Reader (List Json) := do
  itemsAux (2 * (← fuel)) depth first

/-! ## Values that are skipped -/

/-- Passes over the rest of a string. -/
def skipString : Nat → Reader Unit
  | 0 => failHere .endInString
  | fuel + 1 => do
      match ← peek with
      | none => failHere .endInString
      | some '"' => advance
      | some '\\' =>
          advance
          match ← peek with
          | none => failHere .endInString
          | some 'u' =>
              advance
              let _ ← hexUnit
              skipString fuel
          | some ch =>
              if (shortEscape? ch).isSome then
                advance
                skipString fuel
              else failNext .invalidEscape
      | some ch =>
          if ch.toNat < 32 then failHere .controlCharacter
          else
            advance
            skipString fuel

/-- Passes over an exponent, from its mark on. -/
def skipExponent : Reader Unit := do
  advance
  let _ ← exponentSign
  match (← peek).bind digit? with
  | none => failNext .invalidNumber
  | some _ =>
      let _ ← digits

/-- Passes over a number after its sign. -/
def skipNumber : Reader Unit := do
  match (← peek).bind digit? with
  | none => failNext .invalidNumber
  | some first =>
      advance
      if first = 0 then
        if ((← peek).bind digit?).isSome then failNext .invalidNumber
      else
        let _ ← digits
      let next ← peek
      if next = some '.' then
        advance
        if (← digits).isEmpty then failNext .invalidNumber
        else if isExponentMark (← peek) then skipExponent
      else if isExponentMark next then skipExponent

/-- Passes over a key, from before its quote, and the colon after it. -/
def skipKey : Reader Unit := do
  match ← token with
  | none => failNext .endInObject
  | some '"' =>
      advance
      skipString (← fuel)
      colon
  | some _ => failNext .keyNotString

mutual

/-- Passes over a value. -/
def skipAux : Nat → Reader Unit
  | 0 => failNext .endInValue
  | fuel + 1 => do
      match ← token with
      | none => failNext .endInValue
      | some 'n' =>
          advance
          word "ull".toList
      | some 't' =>
          advance
          word "rue".toList
      | some 'f' =>
          advance
          word "alse".toList
      | some '-' =>
          advance
          skipNumber
      | some '"' =>
          advance
          skipString (← Reader.fuel)
      | some '[' =>
          advance
          skipItems fuel true
      | some '{' =>
          advance
          skipMembers fuel true
      | some ch => if ch.isDigit then skipNumber else failNext .expectedValue

/-- Passes over the items of a list and its end. -/
def skipItems : Nat → Bool → Reader Unit
  | 0, _ => failNext .endInList
  | fuel + 1, first => do
      match ← token with
      | none => failNext .endInList
      | some ch =>
          if ch = ']' then advance
          else if first then
            skipAux fuel
            skipItems fuel false
          else if ch = ',' then
            advance
            skipAux fuel
            skipItems fuel false
          else failNext .expectedListEnd

/-- Passes over the members of an object and its end. -/
def skipMembers : Nat → Bool → Reader Unit
  | 0, _ => failNext .endInObject
  | fuel + 1, first => do
      match ← token with
      | none => failNext .endInObject
      | some ch =>
          if ch = '}' then advance
          else if first then
            skipKey
            skipAux fuel
            skipMembers fuel false
          else if ch = ',' then
            advance
            skipKey
            skipAux fuel
            skipMembers fuel false
          else failNext .expectedObjectEnd

end

/-- Passes over a value. -/
def skip : Reader Unit := do
  skipAux (2 * (← fuel))

end PapyrusWriter.Json.Reader
