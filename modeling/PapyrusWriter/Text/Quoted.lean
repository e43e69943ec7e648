import PapyrusWriter.Text.Unprintable
/-!
# Quoted text

A text between double quotes, as messages show it: quotes, backslashes and the usual controls have
short escapes, and every other character that cannot be seen on its own is written by its code
point.
-/

namespace PapyrusWriter.Text

set_option autoImplicit false

/-- A character inside a quoted text. -/
def quotedChar (c : Char) : List Char :=
  if c = '"' then ['\\', '"']
  else if c = '\\' then ['\\', '\\']
  else if c = '\t' then ['\\', 't']
  else if c = '\n' then ['\\', 'n']
  else if c = '\r' then ['\\', 'r']
  else if c.toNat = 0 then ['\\', '0']
  else if isUnprintable c then ['\\', 'u', '{'] ++ Nat.toDigits 16 c.toNat ++ ['}']
  else [c]

/-- The text between double quotes. -/
def quoted (text : String) : String :=
  String.ofList ('"' :: (text.toList.flatMap quotedChar ++ ['"']))

end PapyrusWriter.Text
