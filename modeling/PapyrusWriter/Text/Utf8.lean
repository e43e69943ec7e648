/-!
# Reading UTF-8

The characters that a sequence of bytes encodes. Where the bytes encode nothing, the longest part
that begins an encoded character (or else one byte) is one bad unit.
-/

namespace PapyrusWriter.Text

set_option autoImplicit false

/-- The start of an encoded character: how many bytes are missing, the bits so far, and the range of
the next byte. -/
structure Partial where
  missing : Nat
  bits : Nat
  low : UInt8
  high : UInt8

/-- What the first byte of a unit tells. -/
inductive Lead where
  | single (c : Char)
  | start (rest : Partial)
  | bad

def Lead.ofByte (b : UInt8) : Lead :=
  let n := b.toNat
  if n < 0x80 then .single (Char.ofNat n)
  else if n < 0xC2 then .bad
  else if n < 0xE0 then .start ⟨1, n % 0x20, 0x80, 0xBF⟩
  else if n < 0xF0 then
    .start ⟨2, n % 0x10, if n = 0xE0 then 0xA0 else 0x80, if n = 0xED then 0x9F else 0xBF⟩
  else if n < 0xF5 then
    .start ⟨3, n % 0x08, if n = 0xF0 then 0x90 else 0x80, if n = 0xF4 then 0x8F else 0xBF⟩
  else .bad

/-- The units of a sequence of bytes: characters, and `none` for bad ones. -/
def units : Option Partial → List UInt8 → List (Option Char)
  | none, [] => []
  | some _, [] => [none]
  | none, b :: bs =>
      match Lead.ofByte b with
      | .single c => some c :: units none bs
      | .start rest => units (some rest) bs
      | .bad => none :: units none bs
  | some rest, b :: bs =>
      if rest.low ≤ b && b ≤ rest.high then
        let bits := rest.bits * 0x40 + b.toNat % 0x40
        if rest.missing ≤ 1 then some (Char.ofNat bits) :: units none bs
        else units (some ⟨rest.missing - 1, bits, 0x80, 0xBF⟩) bs
      else
        match Lead.ofByte b with
        | .single c => none :: some c :: units none bs
        | .start next => none :: units (some next) bs
        | .bad => none :: none :: units none bs

/-- The text that the bytes encode, if they encode one. -/
def ofBytes? (bytes : List UInt8) : Option String :=
  ((units none bytes).mapM id).map String.ofList

/-- The text that the bytes encode, with the replacement character for every bad unit. -/
def ofBytesLossy (bytes : List UInt8) : String :=
  String.ofList ((units none bytes).map fun unit => unit.getD '�')

/-- The encoded text. -/
def toBytes (text : String) : List UInt8 := text.toUTF8.toList

end PapyrusWriter.Text
