import PapyrusWriter.Decimal.Shortest
/-!
# What plain scalars stand for

A plain scalar is null, a truth value, an integer, a floating point number, or else a text. Integers
can have a sign and be written with base 16, 8 or 2; several digits that start with zero are a text.
-/

namespace PapyrusWriter.Yaml

set_option autoImplicit false

/-- A number. Integers outside of 64 bits are kept apart. -/
inductive Number where
  | natural (n : Nat)
  | negative (n : Int)
  | float (x : Float)

inductive Scalar where
  | null
  | bool (value : Bool)
  | number (value : Number)
  | wide (value : Int)
  | text (text : String)

namespace Scalar

def nullWords : List String := ["null", "Null", "NULL", "~"]

def isNull (text : String) : Bool := nullWords.contains text

def bool? (text : String) : Option Bool :=
  if ["true", "True", "TRUE"].contains text then some true
  else if ["false", "False", "FALSE"].contains text then some false
  else none

/-- The value of a digit, up to base 16. -/
def digit? (base : Nat) (c : Char) : Option Nat :=
  let value :=
    if '0' ≤ c && c ≤ '9' then some (c.toNat - 48)
    else if 'a' ≤ c && c ≤ 'f' then some (c.toNat - 87)
    else if 'A' ≤ c && c ≤ 'F' then some (c.toNat - 55)
    else none
  value.filter (· < base)

/-- The number that digits write; at least one is needed. -/
def digits? (base : Nat) : List Char → Option Nat
  | [] => none
  | cs => cs.foldl (fun value c => value.bind fun n => (digit? base c).map (base * n + ·)) (some 0)

/-- A number with the mark of a base. -/
def based? : List Char → Option Nat
  | '0' :: 'x' :: rest => digits? 16 rest
  | '0' :: 'o' :: rest => digits? 8 rest
  | '0' :: 'b' :: rest => digits? 2 rest
  | _ => none

/-- The characters after a sign. -/
def unsigned : List Char → List Char
  | '+' :: rest => rest
  | '-' :: rest => rest
  | cs => cs

/-- Several digits, the first one zero. -/
def isPadded (cs : List Char) : Bool :=
  match unsigned cs with
  | '0' :: c :: rest => (c :: rest).all Char.isDigit
  | _ => false

/-- The integer that a scalar writes. -/
def integer? (cs : List Char) : Option Int :=
  let decimal? (digits : List Char) := if isPadded cs then none else digits? 10 digits
  match cs with
  | '-' :: rest => ((based? rest <|> decimal? rest).map fun n => -(n : Int))
  | '+' :: rest => (based? rest <|> decimal? rest).map Int.ofNat
  | rest => (based? rest <|> decimal? rest).map Int.ofNat

/-- Integers that 128 bits cannot hold are none. -/
def inRange (n : Int) : Bool :=
  -0x80000000000000000000000000000000 ≤ n && n < 0x100000000000000000000000000000000

/-- The scalar of an integer. -/
def ofInteger (n : Int) : Scalar :=
  if n < 0 then (if -0x8000000000000000 ≤ n then .number (.negative n) else .wide n)
  else if n < 0x10000000000000000 then .number (.natural n.toNat)
  else .wide n

/-- A decimal with fraction or exponent: its digits as one number, and its exponent. -/
structure Written where
  negative : Bool
  digits : Nat
  exponent : Int

/-- The number and the count of digits at the start, and the rest. -/
def leadingDigits (cs : List Char) : List Char × List Char :=
  (cs.takeWhile Char.isDigit, cs.dropWhile Char.isDigit)

/-- An exponent, or nothing at the end of the text. -/
def exponent? : List Char → Option Int
  | [] => some 0
  | c :: rest =>
      if c = 'e' || c = 'E' then
        match rest with
        | '-' :: digits => (digits? 10 digits).map fun n => -(n : Int)
        | '+' :: digits => (digits? 10 digits).map Int.ofNat
        | digits => (digits? 10 digits).map Int.ofNat
      else none

/-- A decimal number: digits with a point somewhere, and an exponent. -/
def written? (cs : List Char) : Option Written := do
  let negative := cs.head? = some '-'
  let (whole, rest) := leadingDigits (unsigned cs)
  let (fraction, rest) :=
    match rest with
    | '.' :: rest => leadingDigits rest
    | _ => ([], rest)
  let digits := whole ++ fraction
  if digits = [] then none
  let exponent ← exponent? rest
  let value ← digits? 10 digits
  return ⟨negative, value, exponent - fraction.length⟩

/-- The nearest floating point number, if it is finite. -/
def Written.float? (w : Written) : Option Float :=
  let sign (x : Float) := if w.negative then -x else x
  let magnitude := w.exponent + (Nat.toDigits 10 w.digits).length
  if w.digits = 0 || magnitude < -400 then some (sign 0)
  else if 400 < magnitude then none
  else
    let x :=
      match w.exponent with
      | .ofNat e => Float.ofScientific (w.digits * Nat.pow 10 e) false 0
      | .negSucc e => Float.ofScientific w.digits true (e + 1)
    if x.isInf then none else some (sign x)

/-- The floating point number that a scalar writes. -/
def float? (text : String) : Option Float :=
  let cs := text.toList
  let positive := if cs.head? = some '+' then String.ofList (cs.drop 1) else text
  if [".inf", ".Inf", ".INF"].contains positive then some (1.0 / 0.0)
  else if ["-.inf", "-.Inf", "-.INF"].contains text then some (-1.0 / 0.0)
  else if [".nan", ".NaN", ".NAN"].contains text then some (0.0 / 0.0)
  else (written? cs).bind Written.float?

/-- The integer that a text writes, as a scalar. -/
def integerOf? (text : String) : Option Scalar :=
  ((integer? text.toList).filter inRange).map ofInteger

/-- What a plain scalar stands for. -/
def ofPlain (text : String) : Scalar :=
  if text = "" || isNull text then .null
  else
    match bool? text, integerOf? text with
    | some value, _ => .bool value
    | none, some integer => integer
    | none, none =>
        if isPadded text.toList then .text text
        else
          match float? text with
          | some x => .number (.float x)
          | none => .text text

end Scalar

namespace Number

/-- Exponents carry no plus sign. -/
def exponentStyle : Decimal.ExponentStyle := ⟨false⟩

/-- The text of a number. -/
def text : Number → String
  | .natural n => toString n
  | .negative n => toString n
  | .float x =>
      if x.isNaN then ".nan"
      else if x.isInf then (if x < 0 then "-.inf" else ".inf")
      else Decimal.text exponentStyle x

end Number

end PapyrusWriter.Yaml
