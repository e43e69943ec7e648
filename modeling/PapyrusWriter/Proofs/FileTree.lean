import Mathlib.Data.List.Infix
import PapyrusWriter.Host.Node
/-!
# Nodes of a tree after a change

`Node.set` changes what is at one location. No other file comes, goes or changes (`content?_set`),
and at that location is the new node, or what was there before (`get?_set_self`).

A file can be put into a *slot*: a name in a directory that is free or that a file has. After that,
every other location has the same node, or still a directory (`Slot.sameKind_set`).
-/

namespace PapyrusWriter

set_option autoImplicit false

theorem lookup_setEntry (name : String) (node : Node) (entries : List (String × Node))
    (key : String) :
    (setEntry name node entries).lookup key =
      if key = name then some node else entries.lookup key := by
  induction entries with
  | nil => grind [setEntry]
  | cons entry rest ih => grind [setEntry]

namespace Node

/-- What the file at a location holds, if there is a file. -/
def content? (top : Node) (location : Location) : Option Content :=
  match top.get? location with
  | some (.file content _) => some content
  | _ => none

/-- The text that is read from a node. -/
def text? : Node → Option String
  | .file (.text text) _ => some text
  | .device => some ""
  | _ => none

/-- There is a directory at a location. -/
def HasDirectory (top : Node) (location : Location) : Prop :=
  ∃ entries, top.get? location = some (.directory entries)

/-- There is a file at a location, or nothing. -/
def FileOrFree (top : Node) (location : Location) : Prop :=
  top.get? location = none ∨
    ∃ content executable, top.get? location = some (.file content executable)

/-- What a directory has under a name; where nothing is, this is an empty directory. -/
def entry (entries : List (String × Node)) (name : String) : Node :=
  (entries.lookup name).getD (.directory [])

theorem get?_nil (node : Node) : node.get? [] = some node := by
  cases node <;> rfl

theorem get?_append (node : Node) (front back : Location) :
    node.get? (front ++ back) = (node.get? front).bind fun inner => inner.get? back := by
  induction front generalizing node with
  | nil => rw [List.nil_append, get?_nil, Option.bind_some]
  | cons name rest ih =>
      cases node with
      | directory entries =>
          rw [List.cons_append, get?, get?, Option.bind_assoc]
          exact congrArg _ (funext ih)
      | _ => rfl

/-- Something is below directories only. -/
theorem hasDirectory_of_get?_append {top node : Node} {front : Location} {name : String}
    {rest : Location} (found : top.get? (front ++ name :: rest) = some node) :
    top.HasDirectory front := by
  rw [get?_append] at found
  obtain ⟨inner, atFront, below⟩ := Option.bind_eq_some_iff.mp found
  cases inner with
  | directory entries => exact ⟨entries, atFront⟩
  | _ => cases below

namespace HasDirectory

variable {top : Node} {location : Location}

theorem of_append {front back : Location} (directory : top.HasDirectory (front ++ back)) :
    top.HasDirectory front := by
  obtain ⟨entries, found⟩ := directory
  cases back with
  | nil => exact ⟨entries, by rwa [List.append_nil] at found⟩
  | cons name rest => exact hasDirectory_of_get?_append found

theorem root (directory : top.HasDirectory location) : top.HasDirectory [] :=
  of_append (List.nil_append location ▸ directory)

theorem dropLast (directory : top.HasDirectory location) : top.HasDirectory location.dropLast := by
  obtain ⟨last, append⟩ := List.dropLast_prefix location
  exact of_append (append ▸ directory)

end HasDirectory

/-- Nothing is below a file. -/
theorem FileOrFree.bare {top : Node} {location : Location} (place : top.FileOrFree location)
    {below : Location} (deeper : below ≠ []) : top.get? (location ++ below) = none := by
  obtain ⟨name, rest, rfl⟩ := List.exists_cons_of_ne_nil deeper
  rw [get?_append]
  obtain found | ⟨content, executable, found⟩ := place <;> rw [found] <;> rfl

theorem FileOrFree.not_hasDirectory {top : Node} {location : Location}
    (place : top.FileOrFree location) : ¬ top.HasDirectory location := by
  rintro ⟨entries, found⟩
  obtain none | ⟨_, _, file⟩ := place
  · cases none.symm.trans found
  · cases file.symm.trans found

theorem set_directory_cons (entries : List (String × Node)) (name : String) (rest : Location)
    (new : Node) :
    (directory entries).set (name :: rest) new =
      .directory (setEntry name ((entry entries name).set rest new) entries) := rfl

theorem get?_set_directory (entries : List (String × Node)) (name : String) (rest : Location)
    (new : Node) (key : String) (below : Location) :
    ((directory entries).set (name :: rest) new).get? (key :: below) =
      if key = name then ((entry entries name).set rest new).get? below
      else (directory entries).get? (key :: below) := by
  rw [set_directory_cons, get?, lookup_setEntry]
  split <;> rfl

/-- A name that is not there has nothing below it, like an empty directory. -/
theorem get?_entry (entries : List (String × Node)) (name : String) {below : Location}
    (deeper : below ≠ []) :
    (entry entries name).get? below = (directory entries).get? (name :: below) := by
  rw [get?, entry]
  cases entries.lookup name with
  | some node => rfl
  | none =>
      obtain ⟨first, rest, rfl⟩ := List.exists_cons_of_ne_nil deeper
      rfl

theorem content?_entry (entries : List (String × Node)) (name : String) (below : Location) :
    (entry entries name).content? below = (directory entries).content? (name :: below) := by
  cases below with
  | nil =>
      have here : (directory entries).get? [name] = entries.lookup name := by
        rw [get?]
        cases entries.lookup name with
        | some node => exact get?_nil node
        | none => rfl
      rw [content?, content?, here, get?_nil, entry]
      cases entries.lookup name <;> rfl
  | cons first rest => rw [content?, content?, get?_entry _ _ (List.cons_ne_nil _ _)]

/-- A file comes, goes or changes at one location only, if nothing is below that. -/
theorem content?_set {top : Node} {location other : Location} {content : Content}
    {executable : Bool} (bare : ∀ {below}, below ≠ [] → top.get? (location ++ below) = none)
    (differs : other ≠ location) :
    (top.set location (.file content executable)).content? other = top.content? other := by
  induction location generalizing top other with
  | nil =>
      obtain ⟨key, deeper, rfl⟩ := List.exists_cons_of_ne_nil differs
      have before : top.get? (key :: deeper) = none := bare (List.cons_ne_nil _ _)
      rw [set, content?, content?, before]
      rfl
  | cons name rest ih =>
      cases top with
      | directory entries =>
          cases other with
          | nil => rfl
          | cons key deeper =>
              rw [content?, get?_set_directory]
              split_ifs with same
              · subst same
                have inner : ∀ {below}, below ≠ [] →
                    (entry entries key).get? (rest ++ below) = none := by
                  intro below filled
                  rw [get?_entry _ _ (List.append_ne_nil_of_right_ne_nil _ filled)]
                  exact bare filled
                have apart : deeper ≠ rest := fun equal => differs (equal ▸ rfl)
                rw [← content?_entry]
                exact ih inner apart
              · rfl
      | _ => rfl

/-- At the location is the new node, unless something that is no directory is in the way. -/
theorem get?_set_self (top new : Node) (location : Location) :
    (top.set location new).get? location = some new ∨
      (top.set location new).get? location = top.get? location := by
  induction location generalizing top with
  | nil => exact .inl (get?_nil new)
  | cons name rest ih =>
      cases top with
      | directory entries =>
          rw [get?_set_directory, if_pos rfl]
          cases rest with
          | nil => exact .inl (get?_nil new)
          | cons second rest =>
              rw [← get?_entry _ _ (List.cons_ne_nil _ _)]
              exact ih _
      | _ => exact .inr rfl

/-- Only what is on the way to the location, or below it, can change. -/
theorem get?_set_of_incomparable {top new : Node} {location other : Location}
    (above : ¬ other <+: location) (below : ¬ location <+: other) :
    (top.set location new).get? other = top.get? other := by
  induction location generalizing top other with
  | nil => exact absurd List.nil_prefix below
  | cons name rest ih =>
      cases other with
      | nil => exact absurd List.nil_prefix above
      | cons key deeper =>
          cases top with
          | directory entries =>
              rw [get?_set_directory]
              split_ifs with same
              · subst same
                rw [List.cons_prefix_cons, not_and] at above below
                have filled : deeper ≠ [] := by
                  rintro rfl
                  exact above rfl List.nil_prefix
                rw [ih (above rfl) (below rfl), get?_entry entries key filled]
              · rfl
          | _ => rfl

/-- A change below a node is a change of that node. -/
theorem get?_set_append {top node : Node} (new : Node) {front : Location} (back : Location)
    (found : top.get? front = some node) :
    (top.set (front ++ back) new).get? front = some (node.set back new) := by
  induction front generalizing top with
  | nil =>
      rw [get?_nil, Option.some.injEq] at found
      rw [List.nil_append, get?_nil, found]
  | cons name rest ih =>
      cases top with
      | directory entries =>
          obtain ⟨inner, listed, below⟩ := Option.bind_eq_some_iff.mp found
          rw [List.cons_append, get?_set_directory, if_pos rfl, entry, listed]
          exact ih below
      | _ => cases found

theorem get?_file (content : Content) (executable : Bool) {below : Location} (deeper : below ≠ []) :
    (file content executable).get? below = none := by
  obtain ⟨name, rest, rfl⟩ := List.exists_cons_of_ne_nil deeper
  rfl

/-- Two nodes, or places without one, that are the same or are both directories. -/
def SameKind (a b : Option Node) : Prop :=
  a = b ∨ ∃ entries others, a = some (.directory entries) ∧ b = some (.directory others)

theorem SameKind.trans {a b c : Option Node} (former : SameKind a b) (latter : SameKind b c) :
    SameKind a c := by
  obtain rfl | ⟨entries, others, rfl, rfl⟩ := former
  · exact latter
  · obtain rfl | ⟨_, more, -, rfl⟩ := latter
    · exact .inr ⟨entries, others, rfl, rfl⟩
    · exact .inr ⟨entries, more, rfl, rfl⟩

theorem SameKind.eq_none {b : Option Node} (same : SameKind none b) : b = none := by
  obtain rfl | ⟨_, _, directory, -⟩ := same
  · rfl
  · cases directory

section SameKind

variable {top other : Node} {location : Location}
  (same : SameKind (top.get? location) (other.get? location))

include same

theorem SameKind.content?_eq : other.content? location = top.content? location := by
  obtain same | ⟨_, _, before, after⟩ := same
  · rw [content?, content?, same]
  · rw [content?, content?, before, after]

theorem SameKind.hasDirectory (directory : top.HasDirectory location) :
    other.HasDirectory location := by
  obtain ⟨entries, found⟩ := directory
  obtain same | ⟨_, others, -, after⟩ := same
  · exact ⟨entries, same ▸ found⟩
  · exact ⟨others, after⟩

end SameKind

/-- A name in a directory that is free or that a file has. -/
structure Slot (top : Node) (location : Location) : Prop where
  inDirectory : ∃ parent name, location = parent ++ [name] ∧ top.HasDirectory parent
  fileOrFree : top.FileOrFree location

namespace Slot

variable {top : Node} {location : Location}

theorem get?_set (slot : top.Slot location) (new : Node) :
    (top.set location new).get? location = some new := by
  obtain ⟨parent, name, rfl, entries, atParent⟩ := slot.inDirectory
  rw [get?_append, get?_set_append new [name] atParent, Option.bind_some, get?_set_directory,
    if_pos rfl]
  exact get?_nil new

/-- Whoever looks elsewhere does not notice what is put into a slot, if nothing is below that. -/
theorem sameKind_set (slot : top.Slot location) {new : Node}
    (childless : ∀ {below}, below ≠ [] → new.get? below = none) {other : Location}
    (differs : other ≠ location) :
    SameKind (top.get? other) ((top.set location new).get? other) := by
  by_cases above : other <+: location
  · -- `other` is a directory on the way, and stays one.
    obtain ⟨parent, name, rfl, atParent⟩ := slot.inDirectory
    obtain ⟨more, rfl⟩ := (List.prefix_concat_iff.mp above).resolve_left differs
    obtain ⟨entries, before⟩ := atParent.of_append
    have after := get?_set_append new (more ++ [name]) before
    rw [← List.append_assoc] at after
    cases more <;> exact .inr ⟨_, _, before, after⟩
  · by_cases below : location <+: other
    · obtain ⟨more, rfl⟩ := below
      have deeper : more ≠ [] := by
        rintro rfl
        exact differs (List.append_nil _)
      have after : (top.set location new).get? (location ++ more) = none := by
        rw [get?_append, slot.get?_set, Option.bind_some, childless deeper]
      rw [slot.fileOrFree.bare deeper, after]
      exact .inl rfl
    · exact .inl (get?_set_of_incomparable above below).symm

end Slot

end Node

end PapyrusWriter
