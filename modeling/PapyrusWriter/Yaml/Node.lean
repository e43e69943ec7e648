import PapyrusWriter.Yaml.Event
/-!
# From events to nodes

A node is a scalar or a collection with its place. The items of a collection are nodes, and aliases,
which stand for the nodes that carry their number. The collections that a fault leaves open are
marked as cut.
-/

namespace PapyrusWriter.Yaml

set_option autoImplicit false

inductive Collection where
  | sequence
  | mapping
deriving DecidableEq

/-- The place of a node, and what is said of it before its content. -/
structure Label where
  mark : Mark
  number : Option Nat
  tag : Option TagText

mutual

inductive Item where
  | alias (number : Nat)
  | node (node : Node)

/-- The items of a mapping are its keys and values in turn. -/
inductive Node where
  | scalar (label : Label) (style : Style) (text : String)
  | collection (label : Label) (kind : Collection) (items : List Item) (cut : Bool)

end

namespace Node

def label : Node → Label
  | .scalar label _ _ | .collection label _ _ _ => label

def mark (node : Node) : Mark := node.label.mark

end Node

/-! ## Numbers of anchors -/

/-- The names of anchors with their numbers. -/
abbrev Anchors := List (String × Nat)

namespace Anchors

/-- The names with a new number for one of them. -/
def put (name : String) (number : Nat) : Anchors → Anchors
  | [] => [(name, number)]
  | (other, old) :: rest =>
      if other = name then (other, number) :: rest else (other, old) :: put name number rest

/-- The number of the next anchor: as many as there are names. A name that is used again does not
count twice, so that several anchors can have one number. -/
def number (anchors : Anchors) : Option String → Option Nat × Anchors
  | none => (none, anchors)
  | some name => (some anchors.length, anchors.put name anchors.length)

end Anchors

/-! ## Making nodes -/

/-- A collection whose end is not reached; its items are in reverse order. -/
structure Frame where
  label : Label
  kind : Collection
  items : List Item

namespace Frame

def close (frame : Frame) (cut : Bool) : Node :=
  .collection frame.label frame.kind frame.items.reverse cut

end Frame

/-- The open collections, the innermost first, the anchors, and the root once it is finished. -/
structure Composer where
  frames : List Frame := []
  anchors : Anchors := []
  root : Option Item := none

namespace Composer

/-- Adds a finished item to the innermost collection. -/
def add (item : Item) (composer : Composer) : Composer :=
  match composer.frames with
  | [] => { composer with root := some item }
  | frame :: outer => { composer with frames := { frame with items := item :: frame.items } :: outer }

/-- Closes the innermost collection. -/
def closeFrame (cut : Bool) (composer : Composer) : Composer :=
  match composer.frames with
  | [] => composer
  | frame :: outer => add (.node (frame.close cut)) { composer with frames := outer }

/-- Takes the properties of a node up into its label. -/
def labelled (composer : Composer) (properties : Properties) (mark : Mark) : Label × Composer :=
  let (number, anchors) := composer.anchors.number properties.anchor
  (⟨mark, number, properties.tag⟩, { composer with anchors })

/-- Opens a collection. -/
def openFrame (kind : Collection) (properties : Properties) (mark : Mark) (composer : Composer) :
    Composer :=
  let (label, composer) := composer.labelled properties mark
  { composer with frames := ⟨label, kind, []⟩ :: composer.frames }

/-- Takes up an event; an alias for an unknown anchor is a fault. -/
def step (composer : Composer) : Event × Mark → Except Fault Composer
  | (.alias name, mark) =>
      match composer.anchors.lookup name with
      | some number => .ok (composer.add (.alias number))
      | none => .error ⟨.unknownAnchor, mark, none⟩
  | (.scalar text style properties, mark) =>
      let (label, composer) := composer.labelled properties mark
      .ok (composer.add (.node (.scalar label style text)))
  | (.sequenceStart properties, mark) => .ok (composer.openFrame .sequence properties mark)
  | (.mappingStart properties, mark) => .ok (composer.openFrame .mapping properties mark)
  | (.sequenceEnd, _) | (.mappingEnd, _) => .ok (composer.closeFrame false)

/-- Takes up events until one is a fault. Counts those before it. -/
def run : List (Event × Mark) → Nat → Composer → Composer × Nat × Option Fault
  | [], count, composer => (composer, count, none)
  | event :: rest, count, composer =>
      match composer.step event with
      | .ok after => run rest (count + 1) after
      | .error fault => (composer, count, some fault)

/-- Closes the collections that are left open. -/
def cutFrames : Nat → Composer → Composer
  | 0, composer => composer
  | count + 1, composer => cutFrames count (composer.closeFrame true)

end Composer

/-! ## Documents as trees -/

mutual

/-- The nodes with numbers in a node, in the order of the text, put before others in reverse. -/
def Node.numbered : Node → List (Nat × Node) → List (Nat × Node)
  | .scalar label style text, found =>
      match label.number with
      | some number => (number, .scalar label style text) :: found
      | none => found
  | .collection label kind items cut, found =>
      let found :=
        match label.number with
        | some number => (number, .collection label kind items cut) :: found
        | none => found
      Item.numberedAll items found

def Item.numbered : Item → List (Nat × Node) → List (Nat × Node)
  | .alias _, found => found
  | .node node, found => node.numbered found

def Item.numberedAll : List Item → List (Nat × Node) → List (Nat × Node)
  | [], found => found
  | item :: rest, found => Item.numberedAll rest (item.numbered found)

end

/-- A document: its root, if there is one before a fault, and the fault. -/
structure Tree where
  root : Option Item
  fault : Option Fault
  /-- Whether another document follows. -/
  more : Bool
  /-- The number of events. -/
  size : Nat
  /-- The nodes that have numbers, the last one in the text first. -/
  targets : List (Nat × Node)

namespace Tree

def ofDocument (document : Document) : Tree :=
  let (composer, size, fault) := Composer.run document.events 0 {}
  let composer := composer.cutFrames composer.frames.length
  { root := composer.root
    fault := fault <|> document.fault
    more := document.more
    size
    targets := composer.root.elim [] (·.numbered []) }

def ofText (text : String) : Tree :=
  ofDocument (Document.ofTokens (TokenStream.ofText text))

/-- The node that a number stands for: the last one of the text that carries it. -/
def target? (tree : Tree) (number : Nat) : Option Node := tree.targets.lookup number

end Tree

end PapyrusWriter.Yaml
