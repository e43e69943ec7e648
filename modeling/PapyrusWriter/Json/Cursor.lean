import PapyrusWriter.Json.Fault
/-!
# Reading from a text

A cursor is the rest of a text and the place where the rest starts. A reader moves the cursor and
gives a value or an error; after an error the cursor still tells how far the reader came. An error
is placed at the cursor (`failHere`) or one byte further, so that the offending byte is counted
(`failNext`).
-/

namespace PapyrusWriter.Json

set_option autoImplicit false

/-- The rest of a text and its place. The length of the rest is kept, since it is often asked for. -/
structure Cursor where
  rest : List Char
  line : Nat
  column : Nat
  size : Nat := rest.length
  size_eq : size = rest.length := by rfl

namespace Cursor

/-- The start of a text. -/
def start (text : String) : Cursor := { rest := text.toList, line := 1, column := 0 }

def position (c : Cursor) : Position := ⟨c.line, c.column⟩

/-- The cursor after the next character. -/
def advance : Cursor → Cursor
  | ⟨[], line, column, size, h⟩ => ⟨[], line, column, size, h⟩
  | ⟨ch :: rest, line, column, size, h⟩ =>
      have tail : size - 1 = rest.length := by rw [h, List.length_cons, Nat.add_sub_cancel]
      if ch = '\n' then ⟨rest, line + 1, 0, size - 1, tail⟩
      else ⟨rest, line, column + ch.utf8Size, size - 1, tail⟩

/-- The place after `count` bytes, or the end of the text. -/
def afterBytes : Nat → List Char → Position → Position
  | 0, _, place => place
  | _ + 1, [], place => place
  | count + 1, ch :: rest, place =>
      if ch = '\n' then afterBytes count rest ⟨place.line + 1, 0⟩
      else if ch.utf8Size ≤ count + 1 then
        afterBytes (count + 1 - ch.utf8Size) rest ⟨place.line, place.column + ch.utf8Size⟩
      else ⟨place.line, place.column + count + 1⟩

/-- The place one byte further, or the end of the text. -/
def nextPosition (c : Cursor) : Position :=
  match c.rest with
  | [] => c.position
  | ch :: _ => if ch = '\n' then ⟨c.line + 1, 0⟩ else ⟨c.line, c.column + 1⟩

/-- The white space of JSON. -/
def isSpace (ch : Char) : Bool :=
  ch = ' ' || ch = '\n' || ch = '\t' || ch = '\r'

/-- The cursor before the next character that is no white space. -/
def skipSpace (rest : List Char) (line column size : Nat) (h : size = rest.length) : Cursor :=
  match rest with
  | [] => ⟨[], line, column, size, h⟩
  | ch :: tail =>
      have less : size - 1 = tail.length := by rw [h, List.length_cons, Nat.add_sub_cancel]
      if ch = '\n' then skipSpace tail (line + 1) 0 (size - 1) less
      else if isSpace ch then skipSpace tail line (column + 1) (size - 1) less
      else ⟨ch :: tail, line, column, size, h⟩

end Cursor

/-- A computation that moves a cursor. -/
abbrev Reader := EStateM ReadError Cursor

namespace Reader

variable {α : Type}

/-- Fails at the cursor. -/
def failHere (fault : TextFault) : Reader α := fun c =>
  .error ⟨.text fault, some c.position⟩ c

/-- Fails one byte after the cursor. -/
def failNext (fault : TextFault) : Reader α := fun c =>
  .error ⟨.text fault, some c.nextPosition⟩ c

/-- Fails without a place. -/
def failShape (fault : ShapeFault) : Reader α := fun c =>
  .error ⟨.shape fault, none⟩ c

/-- The next character, if there is one. -/
def peek : Reader (Option Char) := fun c => .ok c.rest.head? c

/-- Moves over the next character. -/
def advance : Reader Unit := fun c => .ok () c.advance

/-- Moves over white space and gives the character after it. -/
def token : Reader (Option Char) := fun c =>
  let c := Cursor.skipSpace c.rest c.line c.column c.size c.size_eq
  .ok c.rest.head? c

/-- A bound for the steps that the rest of the text allows. -/
def fuel : Reader Nat := fun c => .ok (c.size + 1) c

theorem fuel_apply (c : Cursor) : fuel c = .ok (c.rest.length + 1) c := by
  rw [fuel, c.size_eq]

/-- Gives an error that has no place yet the place of the cursor. -/
def located (reader : Reader α) : Reader α := fun c =>
  match reader c with
  | .error ⟨fault, none⟩ c => .error ⟨fault, some c.position⟩ c
  | result => result

/-- Runs `close` after `body`, also after an error of `body`, whose error then stays. -/
def closing (body : Reader α) (close : Reader Unit) : Reader α := fun c =>
  match body c with
  | .ok value c =>
      match close c with
      | .ok _ c => .ok value c
      | .error error c => .error error c
  | .error error c =>
      match close c with
      | .ok _ c => .error error c
      | .error _ c => .error error c

/-- Enters a list or an object, if `depth` allows one more level. -/
def deeper (depth : Nat) (body : Nat → Reader α) : Reader α :=
  match depth with
  | 0 => failNext .tooDeep
  | depth + 1 => body depth

end Reader

end PapyrusWriter.Json
