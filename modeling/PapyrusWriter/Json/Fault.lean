import PapyrusWriter.Json.Value
import PapyrusWriter.Text.Quoted
/-!
# Why a JSON text cannot be read

A fault is either in the text (`TextFault`) or in the shape of the value (`ShapeFault`). A fault in
the text always has a position; a fault in the shape gets the position of the innermost value that
was read straight from the text, and has none when there is no such value.
-/

namespace PapyrusWriter.Json

set_option autoImplicit false

/-- A place in a text: lines count from one, columns count the bytes before the place. -/
structure Position where
  line : Nat
  column : Nat
deriving DecidableEq

/-- What is wrong with the text. -/
inductive TextFault where
  | endInList
  | endInObject
  | endInString
  | endInValue
  | expectedColon
  | expectedListEnd
  | expectedObjectEnd
  | expectedWord
  | expectedValue
  | invalidEscape
  | invalidNumber
  | numberOutOfRange
  | controlCharacter
  | keyNotString
  | loneSurrogate
  | trailingComma
  | trailingCharacters
  | unpairedSurrogate
  | tooDeep
deriving DecidableEq

namespace TextFault

def message : TextFault → String
  | .endInList => "EOF while parsing a list"
  | .endInObject => "EOF while parsing an object"
  | .endInString => "EOF while parsing a string"
  | .endInValue => "EOF while parsing a value"
  | .expectedColon => "expected `:`"
  | .expectedListEnd => "expected `,` or `]`"
  | .expectedObjectEnd => "expected `,` or `\x7d`"
  | .expectedWord => "expected ident"
  | .expectedValue => "expected value"
  | .invalidEscape => "invalid escape"
  | .invalidNumber => "invalid number"
  | .numberOutOfRange => "number out of range"
  | .controlCharacter => "control character (\\u0000-\\u001F) found while parsing a string"
  | .keyNotString => "key must be a string"
  | .loneSurrogate => "lone leading surrogate in hex escape"
  | .trailingComma => "trailing comma"
  | .trailingCharacters => "trailing characters"
  | .unpairedSurrogate => "unexpected end of hex escape"
  | .tooDeep => "recursion limit exceeded"

/-- The text ended too early. -/
def isEnd : TextFault → Bool
  | .endInList | .endInObject | .endInString | .endInValue => true
  | _ => false

end TextFault

/-- What stands where another kind of value is expected. -/
inductive Found where
  | null
  | bool (value : Bool)
  | number (value : Number)
  | str (text : String)
  | sequence
  | map

namespace Found

def message : Found → String
  | .null => "null"
  | .bool true => "boolean `true`"
  | .bool false => "boolean `false`"
  | .number (.natural n) => "integer `" ++ toString n ++ "`"
  | .number (.negative n) => "integer `-" ++ toString n ++ "`"
  | .number (.float x) => "floating point `" ++ (Number.float x).text ++ "`"
  | .str text => "string " ++ Text.quoted text
  | .sequence => "sequence"
  | .map => "map"

end Found

/-- What a value is. -/
def found : Json → Found
  | .null => .null
  | .bool value => .bool value
  | .number value => .number value
  | .str text => .str text
  | .arr _ => .sequence
  | .obj _ => .map

/-- What is wrong with the shape of a value. -/
inductive ShapeFault where
  | missingField (name : String)
  | duplicateField (name : String)
  | unknownVariant (name : String) (variants : List String)
  | invalidType (found : Found) (expected : String)
  | invalidValue (found : Found) (expected : String)
  | invalidLength (length : Nat) (expected : String)

namespace ShapeFault

/-- The names to choose from. -/
def alternatives (names : List String) : String :=
  match names.map fun name => "`" ++ name ++ "`" with
  | [] => "nothing"
  | [name] => name
  | [first, second] => first ++ " or " ++ second
  | names => "one of " ++ ", ".intercalate names

def message : ShapeFault → String
  | .missingField name => "missing field `" ++ name ++ "`"
  | .duplicateField name => "duplicate field `" ++ name ++ "`"
  | .unknownVariant name variants =>
      "unknown variant `" ++ name ++ "`, expected " ++ alternatives variants
  | .invalidType found expected => "invalid type: " ++ found.message ++ ", expected " ++ expected
  | .invalidValue found expected => "invalid value: " ++ found.message ++ ", expected " ++ expected
  | .invalidLength length expected =>
      "invalid length " ++ toString length ++ ", expected " ++ expected

end ShapeFault

/-- A fault of either kind. -/
inductive Fault where
  | text (fault : TextFault)
  | shape (fault : ShapeFault)

/-- The three classes of faults. -/
inductive Category where
  | syntactic
  | data
  | ended
deriving DecidableEq

namespace Fault

def message : Fault → String
  | .text fault => fault.message
  | .shape fault => fault.message

def category : Fault → Category
  | .text fault => if fault.isEnd then .ended else .syntactic
  | .shape _ => .data

end Fault

/-- A fault with its place, if it has one. -/
structure ReadError where
  fault : Fault
  position : Option Position

namespace ReadError

def message (error : ReadError) : String :=
  match error.position with
  | none => error.fault.message
  | some place =>
      error.fault.message ++ " at line " ++ toString place.line ++ " column " ++
        toString place.column

end ReadError

end PapyrusWriter.Json
