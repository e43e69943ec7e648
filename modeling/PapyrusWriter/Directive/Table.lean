import PapyrusWriter.Json.Value
import PapyrusWriter.Log
import PapyrusWriter.Text.Replace
/-!
# The directive table

Names with their values. A name keeps the position of its first definition and the value of its last
one; no name occurs twice.
-/

namespace PapyrusWriter

set_option autoImplicit false

/-- The entries with the value of a name replaced, or with the name appended. -/
def insertLast (name value : String) : List (String × String) → List (String × String)
  | [] => [(name, value)]
  | (key, old) :: rest =>
      if key = name then (key, value) :: rest else (key, old) :: insertLast name value rest

theorem mem_keys_insertLast (name value : String) (entries : List (String × String)) (key : String) :
    key ∈ (insertLast name value entries).map Prod.fst ↔ key = name ∨ key ∈ entries.map Prod.fst := by
  induction entries with
  | nil => simp [insertLast]
  | cons entry rest ih =>
      obtain ⟨first, old⟩ := entry
      by_cases same : first = name
      · simp [insertLast, same]
      · simp only [insertLast, same, ↓reduceIte, List.map_cons, List.mem_cons, ih]
        grind

theorem nodup_insertLast (name value : String) (entries : List (String × String))
    (nodup : (entries.map Prod.fst).Nodup) :
    ((insertLast name value entries).map Prod.fst).Nodup := by
  induction entries with
  | nil => simp [insertLast]
  | cons entry rest ih =>
      obtain ⟨first, old⟩ := entry
      rw [List.map_cons, List.nodup_cons] at nodup
      by_cases same : first = name
      · simpa [insertLast, same] using nodup
      · simp only [insertLast, same, ↓reduceIte, List.map_cons, List.nodup_cons,
          mem_keys_insertLast]
        exact ⟨by simpa [same] using nodup.1, ih nodup.2⟩

/-- Names with their values, in the order of their first definitions. -/
structure DirectiveTable where
  entries : List (String × String)
  nodup : (entries.map Prod.fst).Nodup

namespace DirectiveTable

def empty : DirectiveTable := ⟨[], List.nodup_nil⟩

instance : Inhabited DirectiveTable := ⟨empty⟩

/-- The value that a definition gives to its name: `true` if there is none, and without quotes. -/
def definedValue : Option String → String
  | none => "true"
  | some value => Text.stripQuotes value

/-- The table after a definition. -/
def define (table : DirectiveTable) (name : String) (value : Option String) : DirectiveTable :=
  ⟨insertLast name (definedValue value) table.entries, nodup_insertLast _ _ _ table.nodup⟩

/-- The table after definitions with values. -/
def ofList (entries : List (String × String)) : DirectiveTable :=
  entries.foldl (fun table (name, value) => table.define name (some value)) empty

def get? (table : DirectiveTable) (name : String) : Option String :=
  table.entries.lookup name

/-- A conditional block is kept when the value of its name is exactly `true`. -/
def isEnabled (table : DirectiveTable) (name : String) : Bool :=
  table.get? name = some "true"

def size (table : DirectiveTable) : Nat := table.entries.length

/-- The table as an object. -/
def json (table : DirectiveTable) : Json :=
  .obj (table.entries.map fun (name, value) => (name, .str value))

/-- Replaces the names by their values, one entry after the other. -/
def replaceEntries : List (String × String) → String → String
  | [], text => text
  | (name, value) :: rest, text =>
      if name = "" then replaceEntries rest text
      else replaceEntries rest (Text.replaceAll name (Text.stripQuotes value) text)

/-- The text with every name replaced by its value, in the order of the table. The empty name is
left alone. -/
def substitute (table : DirectiveTable) (text : String) : String :=
  replaceEntries table.entries text

/-- What substitution reports. -/
def substituteEvents (table : DirectiveTable) : List Event :=
  (table.entries.filter fun (name, _) => name ≠ "").map fun (name, value) =>
    .replacing name (Text.stripQuotes value)

end DirectiveTable

end PapyrusWriter
