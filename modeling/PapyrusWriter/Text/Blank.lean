/-!
# White space and lines

The characters of the Unicode property White_Space, trimming by them, and the lines of a text.
-/

namespace PapyrusWriter.Text

set_option autoImplicit false

/-- The Unicode property White_Space. -/
def isBlank (c : Char) : Bool :=
  let n := c.toNat
  (9 ≤ n && n ≤ 13) || n == 32 || n == 0x85 || n == 0xA0 || n == 0x1680 ||
    (0x2000 ≤ n && n ≤ 0x200A) || n == 0x2028 || n == 0x2029 || n == 0x202F || n == 0x205F ||
    n == 0x3000

/-- The characters without white space at both ends. -/
def trimList (cs : List Char) : List Char :=
  ((cs.dropWhile isBlank).reverse.dropWhile isBlank).reverse

/-- The text without white space at both ends. -/
def trim (text : String) : String :=
  String.ofList (trimList text.toList)

/-- The pieces between line feeds, the one after the last line feed included. -/
def splitLines : List Char → List (List Char)
  | [] => [[]]
  | c :: cs =>
      if c = '\n' then [] :: splitLines cs
      else
        match splitLines cs with
        | [] => [[c]]
        | line :: rest => (c :: line) :: rest

/-- A line without the carriage return that stands before its line feed. -/
def dropReturn (line : List Char) : List Char :=
  match line.reverse with
  | '\r' :: rest => rest.reverse
  | _ => line

/-- Removes line ends from the pieces of a text. The last piece has no line feed, so it keeps a
carriage return, and it is no line when it is empty. -/
def endLines : List (List Char) → List String
  | [] => []
  | [[]] => []
  | [line] => [String.ofList line]
  | line :: rest => String.ofList (dropReturn line) :: endLines rest

/-- The lines of a text. -/
def lines (text : String) : List String :=
  endLines (splitLines text.toList)

end PapyrusWriter.Text
