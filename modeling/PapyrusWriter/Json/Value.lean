import PapyrusWriter.Decimal.Shortest
/-!
# JSON values and their text

An object keeps its members in order, repeated keys included. A number is an integer when it fits 64
bits and has neither fraction nor exponent; `render` writes a value without blanks.
-/

namespace PapyrusWriter

set_option autoImplicit false

/-- A number: a natural number, a negative integer given by its absolute value, or a floating point
number. -/
inductive Json.Number where
  | natural (n : Nat)
  | negative (n : Nat)
  | float (x : Float)

/-- A JSON value. -/
inductive Json where
  | null
  | bool (value : Bool)
  | number (value : Json.Number)
  | str (text : String)
  | arr (items : List Json)
  | obj (members : List (String × Json))

namespace Json

instance : Inhabited Json := ⟨.null⟩

namespace Number

/-- Exponents carry a sign. -/
def exponentStyle : Decimal.ExponentStyle := ⟨true⟩

/-- The text of a number. -/
def text : Number → String
  | .natural n => toString n
  | .negative n => "-" ++ toString n
  | .float x => Decimal.text exponentStyle x

end Number

/-- A hexadecimal digit, in lower case. -/
def hexDigit (n : Nat) : Char :=
  (Nat.toDigits 16 n).headD '0'

/-- A character inside a written string. Quotes, backslashes and control characters are escaped. -/
def escapeChar (c : Char) : List Char :=
  if c = '"' then ['\\', '"']
  else if c = '\\' then ['\\', '\\']
  else if c.toNat = 8 then ['\\', 'b']
  else if c.toNat = 12 then ['\\', 'f']
  else if c = '\n' then ['\\', 'n']
  else if c = '\r' then ['\\', 'r']
  else if c = '\t' then ['\\', 't']
  else if c.toNat < 32 then ['\\', 'u', '0', '0', hexDigit (c.toNat / 16), hexDigit (c.toNat % 16)]
  else [c]

/-- A string between its quotes. -/
def quoteChars (text : String) : List Char :=
  '"' :: (text.toList.flatMap escapeChar ++ ['"'])

mutual

/-- The characters of a value, without blanks. -/
def chars : Json → List Char
  | .null => "null".toList
  | .bool true => "true".toList
  | .bool false => "false".toList
  | .number n => n.text.toList
  | .str text => quoteChars text
  | .arr items => '[' :: (itemChars items ++ [']'])
  | .obj members => '{' :: (memberChars members ++ ['}'])

/-- The items of a list, with commas between them. -/
def itemChars : List Json → List Char
  | [] => []
  | [item] => chars item
  | item :: next :: rest => chars item ++ ',' :: itemChars (next :: rest)

/-- The members of an object, with commas between them. -/
def memberChars : List (String × Json) → List Char
  | [] => []
  | [(key, item)] => quoteChars key ++ ':' :: chars item
  | (key, item) :: next :: rest =>
      quoteChars key ++ ':' :: (chars item ++ ',' :: memberChars (next :: rest))

end

/-- The text of a value. -/
def render (value : Json) : String :=
  String.ofList value.chars

end Json

end PapyrusWriter
