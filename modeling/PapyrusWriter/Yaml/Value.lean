import PapyrusWriter.Text.Quoted
import PapyrusWriter.Yaml.Node
import PapyrusWriter.Yaml.Scalar
/-!
# Values of YAML nodes

A node is read as a value or as a text. What does not fit is an error with the path to the node and
its place. Reading a collection that a fault cuts off ends with that fault.
-/

namespace PapyrusWriter.Yaml

set_option autoImplicit false

inductive Value where
  | scalar (scalar : Scalar)
  | sequence (items : List Value)
  | mapping (entries : List (Value × Value))
  | tagged (tag : String) (value : Value)

/-- A step from a node to a node in it. -/
inductive Step where
  | key (name : String)
  | index (position : Nat)
  /-- To the value of a key that is no scalar. -/
  | unnamed
deriving DecidableEq

/-- The steps to a node, the last one first. -/
abbrev NodePath := List Step

namespace NodePath

/-- The path as text; the root has none. -/
def text : NodePath → String
  | [] => ""
  | .key name :: outer => joined outer ++ name
  | .index position :: [] => ".[" ++ toString position ++ "]"
  | .index position :: outer => text outer ++ "[" ++ toString position ++ "]"
  | .unnamed :: outer => joined outer ++ "?"
where
  /-- The path before a name. -/
  joined : NodePath → String
    | [] => ""
    | outer => text outer ++ "."

end NodePath

/-- What stands where something else is expected. -/
inductive Found where
  | scalar (scalar : Scalar)
  | sequence
  | map

namespace Found

def message : Found → String
  | .scalar .null => "unit value"
  | .scalar (.bool true) => "boolean `true`"
  | .scalar (.bool false) => "boolean `false`"
  | .scalar (.number (.float x)) =>
      let text :=
        if x.isNaN then "NaN"
        else if x.isInf then (if x < 0 then "-inf" else "inf")
        else Decimal.signText x ++ (Decimal.shortest x).positional
      "floating point `" ++ text ++ "`"
  | .scalar (.number integer) => "integer `" ++ integer.text ++ "`"
  | .scalar (.wide n) =>
      "integer `" ++ toString n ++ "` as " ++ (if n < 0 then "i128" else "u128")
  | .scalar (.text text) => "string " ++ Text.quoted text
  | .sequence => "sequence"
  | .map => "map"

end Found

/-- How the message of a repeated key names it. -/
def Value.keyText : Value → String
  | .scalar .null => "with null key"
  | .scalar (.bool value) => "with key `" ++ (if value then "true" else "false") ++ "`"
  | .scalar (.number number) => "with key " ++ number.text
  | .scalar (.text text) => "with key " ++ Text.quoted text
  | _ => "in YAML map"

/-- What is wrong with a node. -/
inductive Mismatch where
  | missingField (name : String)
  | duplicateField (name : String)
  | invalidType (found : Found) (expected : String)
  | invalidValue (text expected : String)
  | duplicateKey (key : Value)
  | tooDeep

namespace Mismatch

def message : Mismatch → String
  | .missingField name => "missing field `" ++ name ++ "`"
  | .duplicateField name => "duplicate field `" ++ name ++ "`"
  | .invalidType found expected => "invalid type: " ++ found.message ++ ", expected " ++ expected
  | .invalidValue text expected =>
      "invalid value: string " ++ Text.quoted text ++ ", expected " ++ expected
  | .duplicateKey key => "duplicate entry " ++ key.keyText
  | .tooDeep => "recursion limit exceeded"

end Mismatch

/-- Why a text cannot be read. -/
inductive ReadError where
  | fault (fault : Fault)
  | mismatch (mismatch : Mismatch) (path : NodePath) (mark : Mark)
  | tooManyJumps
  | moreThanOneDocument

namespace ReadError

def message : ReadError → String
  | .fault found => found.message
  | .mismatch .tooDeep _ mark => Mismatch.tooDeep.message ++ mark.suffix
  | .mismatch problem [] mark => problem.message ++ mark.suffix
  | .mismatch problem path mark => NodePath.text path ++ ": " ++ problem.message ++ mark.suffix
  | .tooManyJumps => "repetition limit exceeded"
  | .moreThanOneDocument =>
      "deserializing from YAML containing more than one document is not supported"

end ReadError

/-! ## Equality of keys -/

/-- Whether two numbers are the same key; not-a-number is. -/
def Number.same : Number → Number → Bool
  | .natural a, .natural b => a == b
  | .negative a, .negative b => a == b
  | .float a, .float b => a == b || (a.isNaN && b.isNaN)
  | _, _ => false

def Scalar.same : Scalar → Scalar → Bool
  | .null, .null => true
  | .bool a, .bool b => a == b
  | .number a, .number b => a.same b
  | .wide a, .wide b => a == b
  | .text a, .text b => a == b
  | _, _ => false

mutual

/-- Whether two values are the same key. -/
def Value.same : Value → Value → Bool
  | .scalar a, .scalar b => a.same b
  | .sequence a, .sequence b => Value.sameList a b
  | .mapping a, .mapping b => a.length == b.length && Value.sameEntries a b
  | .tagged s a, .tagged t b => s == t && a.same b
  | _, _ => false

def Value.sameList : List Value → List Value → Bool
  | [], [] => true
  | a :: as, b :: bs => a.same b && Value.sameList as bs
  | _, _ => false

/-- Whether each entry has its like among others, in any order. -/
def Value.sameEntries : List (Value × Value) → List (Value × Value) → Bool
  | [], _ => true
  | (key, value) :: rest, others =>
      others.any (fun (other, item) => key.same other && value.same item) &&
        Value.sameEntries rest others

end

/-! ## What nodes say of themselves -/

/-- A tag without its mark; a mark alone stays. -/
def unmarked : List Char → List Char
  | '!' :: c :: rest => c :: rest
  | tag => tag

/-- The tag of a value of its own kind; tags of the standard kinds are none. A second mark does not
count either. -/
def localTag? (tag : Option TagText) : Option String :=
  match (tag.bind TagText.text?).map String.toList with
  | some ('!' :: name) => some (String.ofList (unmarked (unmarked ('!' :: name))))
  | _ => none

def standardTag (name : String) : TagText := .ofString ("tag:yaml.org,2002:" ++ name)

/-- What a scalar stands for. A standard tag decides its kind; else a plain one is resolved. -/
def scalarOf (tag : Option TagText) (style : Style) (text : String) : Except Mismatch Scalar :=
  let orInvalid (result : Option Scalar) (expected : String) : Except Mismatch Scalar :=
    match result with
    | some scalar => .ok scalar
    | none => .error (.invalidValue text expected)
  match tag with
  | none => .ok (if style = .plain then Scalar.ofPlain text else .text text)
  | some tag =>
      if tag = standardTag "bool" then orInvalid ((Scalar.bool? text).map .bool) "a boolean"
      else if tag = standardTag "int" then orInvalid (Scalar.integerOf? text) "an integer"
      else if tag = standardTag "float" then
        orInvalid ((Scalar.float? text).map fun x => .number (.float x)) "a float"
      else if tag = standardTag "null" then
        orInvalid (if Scalar.isNull text then some .null else none) "null"
      else if style = .plain && tag.head? = some (some '!') then .ok (Scalar.ofPlain text)
      else .ok (.text text)

/-- What a node is, for messages. -/
def Node.found : Node → Except Mismatch Found
  | .scalar label style text => (scalarOf label.tag style text).map .scalar
  | .collection _ .sequence _ _ => .ok .sequence
  | .collection _ .mapping _ _ => .ok .map

/-- The error that a node is not what is expected. -/
def Node.unexpected (node : Node) (expected : String) (path : NodePath) : ReadError :=
  match node.found with
  | .ok found => .mismatch (.invalidType found expected) path node.mark
  | .error mismatch => .mismatch mismatch path node.mark

/-- The step to the value of a key. Only a key that is itself a scalar has a name. -/
def Item.step : Item → Step
  | .node (.scalar _ _ text) => .key text
  | _ => .unnamed

def wrapTag (tag : Option TagText) (value : Value) : Value :=
  match localTag? tag with
  | some name => .tagged name value
  | none => value

/-! ## Reading items -/

/-- A computation that reads from a tree, with the number of aliases that it can still follow. -/
abbrev Reading := StateT Nat (Except ReadError)

/-- The aliases that can be followed for each event of a document. -/
def jumpsPerEvent : Nat := 100

namespace Tree

/-- The error where the nodes of a tree are cut off. -/
def cutError (tree : Tree) : ReadError :=
  .fault (tree.fault.getD ⟨.missingNode, .start, none⟩)

/-- Runs a computation that reads from a tree. -/
def reading {α : Type} (tree : Tree) (read : Reading α) : Except ReadError α :=
  read.run' (jumpsPerEvent * tree.size)

/-- The node of an item. -/
def follow (tree : Tree) : Item → Reading Node
  | .node node => pure node
  | .alias number => do
      match ← get with
      | 0 => throw .tooManyJumps
      | jumps + 1 =>
          set jumps
          match tree.target? number with
          | some node => pure node
          | none => throw tree.cutError

/-- The text of an item that is a scalar, as it is written. -/
def text (tree : Tree) (expected : String) (path : NodePath) (item : Item) : Reading String := do
  match ← tree.follow item with
  | .scalar _ _ text => pure text
  | node => throw (node.unexpected expected path)

/-- Reads the pairs of a mapping one after the other. -/
def readPairs {σ : Type} (tree : Tree) (cut : Bool) (read : σ → Item → Reading Item → Reading σ) :
    List Item → σ → Reading σ
  | [], state => if cut then throw tree.cutError else pure state
  | [key], state => read state key (throw tree.cutError)
  | key :: item :: rest, state => do
      readPairs tree cut read rest (← read state key (pure item))

/-- Reads the items of a sequence one after the other. -/
def readItems (tree : Tree) (cut : Bool) (read : Nat → Item → Reading Value) :
    List Item → Nat → Reading (List Value)
  | [], _ => if cut then throw tree.cutError else pure []
  | item :: rest, position => do
      let value ← read position item
      return value :: (← readItems tree cut read rest (position + 1))

/-- The value of an item. `depth` bounds the nesting. -/
def value (tree : Tree) (depth : Nat) (path : NodePath) (item : Item) : Reading Value := do
  match ← tree.follow item with
  | .scalar label style text =>
      match scalarOf label.tag style text with
      | .ok (.wide n) =>
          throw (.mismatch (.invalidType (.scalar (.wide n)) "any YAML value") path label.mark)
      | .ok resolved => return wrapTag label.tag (.scalar resolved)
      | .error mismatch => throw (.mismatch mismatch path label.mark)
  | .collection label kind items cut =>
      match depth, kind with
      | 0, _ => throw (.mismatch .tooDeep path label.mark)
      | depth + 1, .sequence =>
          let values ← tree.readItems cut
            (fun position item => value tree depth (.index position :: path) item) items 0
          return wrapTag label.tag (.sequence values)
      | depth + 1, .mapping =>
          let entries ← tree.readPairs cut (fun entries key item => do
            let name ← value tree depth path key
            match entries.find? fun (other, _) => other.same name with
            | some (first, _) => throw (.mismatch (.duplicateKey first) path label.mark)
            | none => return entries ++ [(name, ← value tree depth (key.step :: path) (← item))])
            items []
          return wrapTag label.tag (.mapping entries)

end Tree

end PapyrusWriter.Yaml
