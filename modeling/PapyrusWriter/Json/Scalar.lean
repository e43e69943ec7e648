import PapyrusWriter.Json.Cursor
/-!
# Words, strings and numbers

The readers here start after the character that tells the kind of the value.
-/

namespace PapyrusWriter.Json.Reader

set_option autoImplicit false

/-- The rest of a word such as `null`. -/
def word : List Char → Reader Unit
  | [] => pure ()
  | expected :: rest => do
      match ← peek with
      | none => failHere .endInValue
      | some ch =>
          if ch = expected then
            advance
            word rest
          else failNext .expectedWord

/-! ## Strings -/

/-- The value of a hexadecimal digit. -/
def hexValue? (ch : Char) : Option Nat :=
  if '0' ≤ ch ∧ ch ≤ '9' then some (ch.toNat - 48)
  else if 'a' ≤ ch ∧ ch ≤ 'f' then some (ch.toNat - 87)
  else if 'A' ≤ ch ∧ ch ≤ 'F' then some (ch.toNat - 55)
  else none

/-- The number of bytes of a character list. -/
def byteCount (cs : List Char) : Nat :=
  cs.foldl (fun n ch => n + ch.utf8Size) 0

/-- Four hexadecimal digits. Four bytes count as read even if they are no digits. -/
def hexUnit : Reader Nat := fun c =>
  match c.rest with
  | a :: b :: d :: e :: _ =>
      match hexValue? a, hexValue? b, hexValue? d, hexValue? e with
      | some a, some b, some d, some e =>
          .ok (((a * 16 + b) * 16 + d) * 16 + e) c.advance.advance.advance.advance
      | _, _, _, _ =>
          .error ⟨.text .invalidEscape, some (Cursor.afterBytes 4 c.rest c.position)⟩ c
  | short =>
      let place := Cursor.afterBytes 4 short c.position
      if byteCount short < 4 then .error ⟨.text .endInString, some place⟩ c
      else .error ⟨.text .invalidEscape, some place⟩ c

def isLeading (n : Nat) : Bool := 0xD800 ≤ n && n ≤ 0xDBFF

def isTrailing (n : Nat) : Bool := 0xDC00 ≤ n && n ≤ 0xDFFF

/-- The character of a pair of surrogates. -/
def pairChar (leading trailing : Nat) : Char :=
  Char.ofNat (0x10000 + (leading - 0xD800) * 0x400 + (trailing - 0xDC00))

/-- One expected character inside a string. -/
def stringChar (expected : Char) : Reader Unit := do
  match ← peek with
  | none => failHere .endInString
  | some ch => if ch = expected then advance else failNext .unpairedSurrogate

/-- The rest of an escape by code unit. -/
def unicodeEscape : Reader Char := do
  let unit ← hexUnit
  if isTrailing unit then failHere .loneSurrogate
  else if isLeading unit then
    stringChar '\\'
    stringChar 'u'
    let second ← hexUnit
    if isTrailing second then pure (pairChar unit second) else failHere .loneSurrogate
  else pure (Char.ofNat unit)

/-- The character of a short escape. -/
def shortEscape? (ch : Char) : Option Char :=
  match ch with
  | '"' => some '"'
  | '\\' => some '\\'
  | '/' => some '/'
  | 'b' => some (Char.ofNat 8)
  | 'f' => some (Char.ofNat 12)
  | 'n' => some '\n'
  | 'r' => some '\r'
  | 't' => some '\t'
  | _ => none

/-- The rest of an escape. -/
def escape : Reader Char := do
  match ← peek with
  | none => failHere .endInString
  | some 'u' =>
      advance
      unicodeEscape
  | some ch =>
      match shortEscape? ch with
      | some value =>
          advance
          pure value
      | none => failNext .invalidEscape

/-- The rest of a string, after the characters `seen` in reverse order. -/
def stringRest : Nat → List Char → Reader String
  | 0, _ => failHere .endInString
  | fuel + 1, seen => do
      match ← peek with
      | none => failHere .endInString
      | some '"' =>
          advance
          pure (String.ofList seen.reverse)
      | some '\\' =>
          advance
          let ch ← escape
          stringRest fuel (ch :: seen)
      | some ch =>
          if ch.toNat < 32 then failNext .controlCharacter
          else
            advance
            stringRest fuel (ch :: seen)

/-- A string after its opening quote. -/
def string : Reader String := do
  stringRest (← fuel) []

/-! ## Numbers -/

/-- The greatest natural number of 64 bits. -/
def maxNatural : Nat := 0xFFFFFFFFFFFFFFFF

/-- The value of a decimal digit. -/
def digit? (ch : Char) : Option Nat :=
  if '0' ≤ ch ∧ ch ≤ '9' then some (ch.toNat - 48) else none

/-- The digits that follow. -/
def digitsRest : Nat → Reader (List Nat)
  | 0 => pure []
  | fuel + 1 => do
      match (← peek).bind digit? with
      | none => pure []
      | some d =>
          advance
          return d :: (← digitsRest fuel)

def digits : Reader (List Nat) := do
  digitsRest (← fuel)

/-- Appends digits as long as the number fits 64 bits, and counts the digits appended. -/
def absorb (significand : Nat) : List Nat → Nat × Nat
  | [] => (significand, 0)
  | d :: rest =>
      if significand * 10 + d ≤ maxNatural then
        let (value, count) := absorb (significand * 10 + d) rest
        (value, count + 1)
      else (significand, 0)

/-- Divides by powers of ten in steps that stay in range. -/
def scaleDown : Nat → Float → Nat → Float
  | 0, x, _ => x
  | fuel + 1, x, exponent =>
      if exponent ≤ 308 then x / Float.ofScientific 1 false exponent
      else if x == 0 then x
      else scaleDown fuel (x / Float.ofScientific 1 false 308) (exponent - 308)

/-- The floating point number of a significand and a decimal exponent; `none` if it is too large. -/
def scaled? (significand : Nat) (exponent : Int) : Option Float :=
  let x := significand.toUInt64.toFloat
  match exponent with
  | .ofNat e =>
      if e ≤ 308 then
        let y := x * Float.ofScientific 1 false e
        if y.isInf then none else some y
      else if x == 0 then some x
      else none
  | .negSucc e => some (scaleDown 8 x (e + 1))

def floating (positive : Bool) (significand : Nat) (exponent : Int) : Reader Number := do
  match scaled? significand exponent with
  | none => failHere .numberOutOfRange
  | some x => pure (.float (if positive then x else -x))

/-- The greatest exponent that is read as one. -/
def maxExponent : Nat := 0x7FFFFFFF

/-- The digits of an exponent after the first one; `none` if the exponent is too large, which ends
the reading after the digit that made it so. -/
def exponentRest : Nat → Nat → Reader (Option Nat)
  | 0, exponent => pure (some exponent)
  | fuel + 1, exponent => do
      match (← peek).bind digit? with
      | none => pure (some exponent)
      | some d =>
          advance
          if maxExponent < exponent * 10 + d then pure none
          else exponentRest fuel (exponent * 10 + d)

/-- The sign of an exponent: `true` for a positive one. -/
def exponentSign : Reader Bool := do
  match ← peek with
  | some '+' =>
      advance
      pure true
  | some '-' =>
      advance
      pure false
  | _ => pure true

/-- A number from its exponent on; the cursor stands before the exponent mark. -/
def exponentPart (positive : Bool) (significand : Nat) (start : Int) : Reader Number := do
  advance
  let positiveExponent ← exponentSign
  match ← peek with
  | none => failHere .endInValue
  | some ch =>
      match digit? ch with
      | none => failNext .invalidNumber
      | some first =>
          advance
          match ← exponentRest (← fuel) first with
          | some e =>
              floating positive significand (if positiveExponent then start + e else start - e)
          | none =>
              if significand ≠ 0 ∧ positiveExponent then failHere .numberOutOfRange
              else
                let _ ← digits
                pure (.float (if positive then 0 else -0.0))

/-- Whether the character marks an exponent. -/
def isExponentMark (ch : Option Char) : Bool :=
  ch = some 'e' || ch = some 'E'

/-- A number from its point on; the cursor stands before the point. -/
def fractionPart (positive : Bool) (significand : Nat) (start : Int) : Reader Number := do
  advance
  let ds ← digits
  if ds.isEmpty then
    match ← peek with
    | some _ => failNext .invalidNumber
    | none => failNext .endInValue
  else
    let (value, count) := absorb significand ds
    let exponent := start - count
    if isExponentMark (← peek) then exponentPart positive value exponent
    else floating positive value exponent

/-- An integer without fraction and exponent. Zero with a sign and what does not fit 64 bits are
floating point numbers. -/
def integer (positive : Bool) (n : Nat) : Number :=
  if positive then .natural n
  else if n = 0 ∨ 0x8000000000000000 < n then .float (-n.toUInt64.toFloat)
  else .negative n

/-- A number from the end of its integer digits on, of which `dropped` are beyond the significand.
-/
def numberTail (positive : Bool) (significand dropped : Nat) : Reader Number := do
  let next ← peek
  if next = some '.' then fractionPart positive significand dropped
  else if isExponentMark next then exponentPart positive significand dropped
  else if dropped = 0 then pure (integer positive significand)
  else floating positive significand dropped

/-- A number after its sign. -/
def number (positive : Bool) : Reader Number := do
  match ← peek with
  | none => failHere .endInValue
  | some ch =>
      match digit? ch with
      | none => failNext .invalidNumber
      | some 0 =>
          advance
          match (← peek).bind digit? with
          | some _ => failNext .invalidNumber
          | none => numberTail positive 0 0
      | some first =>
          advance
          let ds ← digits
          let (value, count) := absorb first ds
          numberTail positive value (ds.length - count)

end PapyrusWriter.Json.Reader
