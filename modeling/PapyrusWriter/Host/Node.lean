import PapyrusWriter.Text.Utf8
/-!
# Trees of files

A node is a file, a symbolic link, the null device, or a directory of named nodes. The entries of a
directory are kept in the order of their names. A location is the list of names that leads from the
top to a node.
-/

namespace PapyrusWriter

set_option autoImplicit false

/-- What a file holds: a text, or bytes that encode none. -/
inductive Content where
  | text (text : String)
  | binary (bytes : List UInt8)
deriving DecidableEq

namespace Content

def ofBytes (bytes : List UInt8) : Content :=
  match Text.ofBytes? bytes with
  | some held => .text held
  | none => .binary bytes

def bytes : Content → List UInt8
  | .text held => Text.toBytes held
  | .binary held => held

/-- The content as text, with the replacement character where the bytes encode none. -/
def lossyText : Content → String
  | .text held => held
  | .binary held => Text.ofBytesLossy held

end Content

/-- The names from the top of a tree to one of its nodes. -/
abbrev Location := List String

inductive Node where
  | file (content : Content) (executable : Bool)
  | link (target : String)
  /-- Holds nothing and forgets what is written to it. -/
  | device
  | directory (entries : List (String × Node))

instance : Inhabited Node := ⟨.directory []⟩

/-- The entries with one of them set, in the order of names. -/
def setEntry (name : String) (node : Node) : List (String × Node) → List (String × Node)
  | [] => [(name, node)]
  | (key, old) :: rest =>
      if name = key then (name, node) :: rest
      else if name < key then (name, node) :: (key, old) :: rest
      else (key, old) :: setEntry name node rest

namespace Node

def isDirectory : Node → Bool
  | .directory _ => true
  | _ => false

def isFile : Node → Bool
  | .file _ _ => true
  | _ => false

/-- The node at a location below this one. -/
def get? : Node → Location → Option Node
  | node, [] => some node
  | .directory entries, name :: rest => (entries.lookup name).bind fun node => node.get? rest
  | _, _ :: _ => none

/-- The tree with the node at a location replaced or added. Directories on the way are added where
nothing is. -/
def set : Node → Location → Node → Node
  | _, [], new => new
  | .directory entries, name :: rest, new =>
      .directory (setEntry name (((entries.lookup name).getD (.directory [])).set rest new) entries)
  | node, _ :: _, _ => node

/-- The tree without what is at a location. -/
def remove : Node → Location → Node
  | .directory entries, [name] => .directory (entries.filter fun entry => entry.1 ≠ name)
  | .directory entries, name :: rest =>
      .directory (entries.map fun (key, node) =>
        (key, if key = name then node.remove rest else node))
  | node, _ => node

mutual

/-- The locations of everything below a node, each before what is below it, in the order of names.
-/
def descendants : Node → List (Location × Node)
  | .directory entries => entryDescendants entries
  | _ => []

def entryDescendants : List (String × Node) → List (Location × Node)
  | [] => []
  | (name, node) :: rest =>
      ([name], node) ::
        ((descendants node).map fun (location, inner) => (name :: location, inner)) ++
          entryDescendants rest

end

/-- The locations of the files below a node. -/
def files (node : Node) : List Location :=
  ((descendants node).filter fun entry => entry.2.isFile).map Prod.fst

end Node

end PapyrusWriter
