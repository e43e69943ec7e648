import Mathlib.Data.List.Lex
import PapyrusWriter.Proofs.NamedEntries
/-!
# Trees in the order of names

The names in a directory are kept in the order of strings, which is the order of the bytes that
encode them (`Text.byteBefore_of_lt`): of two characters the greater one has the longer encoding, or
one of the same length with a greater byte where they first differ.

A tree is `Ordered` if the entries of each of its directories have proper names, in the order of
bytes. Putting ordered trees into each other keeps them ordered (`Ordered.set`). In an ordered tree
every node is listed under the location that leads to it and under no other (`mem_descendants`), and
the locations increase in the lexicographic order of their names (`pairwise_descendants`).
-/

namespace PapyrusWriter

set_option autoImplicit false

namespace Text

/-- One text comes before another in the order of their bytes. -/
def ByteBefore (a b : String) : Prop := List.Lex (· < ·) (toBytes a) (toBytes b)

/-- The bytes that are listed so far stand before the others. -/
theorem byteArrayLoop_eq (bytes : ByteArray) (position : Nat) (before : List UInt8) :
    ByteArray.toList.loop bytes position before =
      before.reverse ++ bytes.data.toList.drop position := by
  fun_induction ByteArray.toList.loop bytes position before with
  | case1 position before inside ih =>
      have inList : position < bytes.data.toList.length := inside
      have entry : bytes.get! position = bytes.data.toList.get ⟨position, inList⟩ := by
        have inArray : position < bytes.data.size := inside
        rw [ByteArray.get!, getElem!_pos bytes.data position inArray]
        rfl
      have split : bytes.data.toList.drop position =
          bytes.get! position :: bytes.data.toList.drop (position + 1) := by
        rw [entry, List.drop_eq_getElem_cons inList]
        rfl
      rw [ih, split, List.reverse_cons, List.append_assoc, List.singleton_append]
  | case2 position before outside =>
      rw [List.drop_eq_nil_of_le (Nat.not_lt.mp outside), List.append_nil]

theorem toBytes_eq (text : String) :
    toBytes text = text.toList.flatMap String.utf8EncodeChar := by
  rw [toBytes, String.toUTF8_eq_toByteArray, ← String.utf8Encode_toList, ByteArray.toList,
    byteArrayLoop_eq, List.reverse_nil, List.drop_zero, List.nil_append]
  exact List.toList_data_toByteArray

section Encoding

variable {x y : Nat} {front back : List UInt8}

theorem lex_ofNat (less : x < y) (fits : y < 256) :
    List.Lex (· < ·) (UInt8.ofNat x :: front) (UInt8.ofNat y :: back) := by
  refine .rel ?_
  rw [UInt8.lt_iff_toNat_lt, UInt8.toNat_ofNat', UInt8.toNat_ofNat']
  omega

/-- Bytes that tell two numbers apart by their multiples of `weight`, and leave the rest to what
follows. -/
theorem lex_digit {n m : Nat} (weight : Nat) (below : n < m)
    (greater : n / weight < m / weight → x < y ∧ y < 256)
    (rest : n / weight = m / weight → x = y ∧ List.Lex (· < ·) front back) :
    List.Lex (· < ·) (UInt8.ofNat x :: front) (UInt8.ofNat y :: back) := by
  have ordered : n / weight ≤ m / weight := Nat.div_le_div_right (Nat.le_of_lt below)
  obtain less | same := Nat.lt_or_eq_of_le ordered
  · obtain ⟨less, fits⟩ := greater less
    exact lex_ofNat less fits
  · obtain ⟨rfl, less⟩ := rest same
    exact .cons less

end Encoding

theorem lex_utf8EncodeChar {c d : Char} (less : c < d) (front back : List UInt8) :
    List.Lex (· < ·) (String.utf8EncodeChar c ++ front) (String.utf8EncodeChar d ++ back) := by
  have below : c.val.toNat < d.val.toNat := less
  have bound : d.val.toNat < 0x110000 := by
    have valid := d.valid
    simp only [UInt32.isValidChar, Nat.isValidChar] at valid
    omega
  unfold String.utf8EncodeChar
  generalize c.val.toNat = n at *
  generalize d.val.toNat = m at *
  simp only
  -- A shorter encoding has a smaller first byte; of the same length, the encodings are digits in
  -- base 64 after a first digit.
  split_ifs
  all_goals try omega
  · exact lex_ofNat below (by omega)
  · exact lex_ofNat (by omega) (by omega)
  · exact lex_ofNat (by omega) (by omega)
  · exact lex_ofNat (by omega) (by omega)
  · refine lex_digit 64 below (by omega) fun _ => ⟨by omega, ?_⟩
    exact lex_ofNat (by omega) (by omega)
  · exact lex_ofNat (by omega) (by omega)
  · exact lex_ofNat (by omega) (by omega)
  · refine lex_digit 4096 below (by omega) fun _ => ⟨by omega, ?_⟩
    refine lex_digit 64 below (by omega) fun _ => ⟨by omega, ?_⟩
    exact lex_ofNat (by omega) (by omega)
  · exact lex_ofNat (by omega) (by omega)
  · refine lex_digit 262144 below (by omega) fun _ => ⟨by omega, ?_⟩
    refine lex_digit 4096 below (by omega) fun _ => ⟨by omega, ?_⟩
    refine lex_digit 64 below (by omega) fun _ => ⟨by omega, ?_⟩
    exact lex_ofNat (by omega) (by omega)

theorem lex_flatMap_utf8EncodeChar {a b : List Char} (less : List.Lex (· < ·) a b) :
    List.Lex (· < ·) (a.flatMap String.utf8EncodeChar) (b.flatMap String.utf8EncodeChar) := by
  induction less with
  | @nil c rest =>
      obtain ⟨byte, more, encoded⟩ :=
        List.exists_cons_of_ne_nil (String.utf8EncodeChar_ne_nil (c := c))
      rw [List.flatMap_cons, encoded]
      exact .nil
  | rel less =>
      rw [List.flatMap_cons, List.flatMap_cons]
      exact lex_utf8EncodeChar less _ _
  | cons _ ih =>
      rw [List.flatMap_cons, List.flatMap_cons]
      exact List.Lex.append_left _ ih _

theorem byteBefore_of_lt {a b : String} (less : a < b) : ByteBefore a b := by
  rw [ByteBefore, toBytes_eq, toBytes_eq]
  exact lex_flatMap_utf8EncodeChar (String.lt_iff.mp less)

theorem not_byteBefore_self (text : String) : ¬ ByteBefore text text :=
  List.lex_irrefl UInt8.lt_irrefl _

theorem ByteBefore.trans {a b c : String} (former : ByteBefore a b) (latter : ByteBefore b c) :
    ByteBefore a c :=
  @List.lt_trans UInt8 _ _ _ _ _ former latter

end Text

theorem mem_names_of_lookup {entries : List (String × Node)} {name : String} {node : Node}
    (found : entries.lookup name = some node) : name ∈ entries.map Prod.fst := by
  by_contra absent
  have none : entries.lookup name = none := by
    rw [List.lookup_eq_none_iff]
    intro entry among
    have differs : name ≠ entry.1 := by
      rintro rfl
      exact absent (List.mem_map_of_mem among)
    simpa using differs
  rw [none] at found
  cases found

/-- The entries of a directory have proper names, in the order of bytes and none twice. -/
structure EntriesInOrder (entries : List (String × Node)) : Prop where
  increasing : (entries.map Prod.fst).Pairwise Text.ByteBefore
  named : ∀ name ∈ entries.map Prod.fst, Walk.IsName name

namespace EntriesInOrder

theorem nil : EntriesInOrder [] := ⟨.nil, List.forall_mem_nil _⟩

theorem tail {entry : String × Node} {rest : List (String × Node)}
    (inOrder : EntriesInOrder (entry :: rest)) : EntriesInOrder rest :=
  ⟨(List.pairwise_cons.mp inOrder.increasing).2,
    fun name among => inOrder.named name (List.mem_cons_of_mem _ among)⟩

theorem before {name key : String} {node : Node} {rest : List (String × Node)}
    (inOrder : EntriesInOrder ((name, node) :: rest)) (among : key ∈ rest.map Prod.fst) :
    Text.ByteBefore name key :=
  (List.pairwise_cons.mp inOrder.increasing).1 key among

theorem mem_names_setEntry {name key : String} {node : Node} {entries : List (String × Node)} :
    key ∈ (setEntry name node entries).map Prod.fst ↔
      key = name ∨ key ∈ entries.map Prod.fst := by
  induction entries with
  | nil => simp [setEntry]
  | cons entry rest ih =>
      obtain ⟨other, old⟩ := entry
      rw [setEntry]
      split_ifs with same less
      · simp [same]
      · simp
      · simp only [List.map_cons, List.mem_cons, ih]
        exact or_left_comm

theorem pairwise_names_setEntry {name : String} {node : Node} {entries : List (String × Node)}
    (increasing : (entries.map Prod.fst).Pairwise Text.ByteBefore) :
    ((setEntry name node entries).map Prod.fst).Pairwise Text.ByteBefore := by
  induction entries with
  | nil => simp [setEntry]
  | cons entry rest ih =>
      obtain ⟨other, old⟩ := entry
      obtain ⟨first, later⟩ := List.pairwise_cons.mp increasing
      rw [setEntry]
      split_ifs with same less
      · exact List.pairwise_cons.mpr ⟨same ▸ first, later⟩
      · have before := Text.byteBefore_of_lt less
        refine List.pairwise_cons.mpr ⟨fun key among => ?_, increasing⟩
        obtain rfl | among := List.mem_cons.mp among
        · exact before
        · exact before.trans (first key among)
      · have greater : other < name := by
          by_contra notGreater
          exact same (String.le_antisymm (String.not_lt.mp notGreater) (String.not_lt.mp less))
        refine List.pairwise_cons.mpr ⟨fun key among => ?_, ih later⟩
        obtain rfl | among := mem_names_setEntry.mp among
        · exact Text.byteBefore_of_lt greater
        · exact first key among

theorem setEntry {entries : List (String × Node)} (inOrder : EntriesInOrder entries)
    {name : String} (isName : Walk.IsName name) (node : Node) :
    EntriesInOrder (setEntry name node entries) := by
  refine ⟨pairwise_names_setEntry inOrder.increasing, fun key among => ?_⟩
  obtain rfl | among := mem_names_setEntry.mp among
  · exact isName
  · exact inOrder.named key among

end EntriesInOrder

namespace Node

/-- There is a file at a location. -/
def HasFile (top : Node) (location : Location) : Prop :=
  ∃ content executable, top.get? location = some (.file content executable)

theorem HasFile.ne_nil {entries : List (String × Node)} {location : Location}
    (file : (directory entries).HasFile location) : location ≠ [] := by
  rintro rfl
  obtain ⟨content, executable, found⟩ := file
  cases found

/-- The entries of every directory of a tree are in order. -/
def Ordered (top : Node) : Prop :=
  ∀ ⦃location entries⦄, top.get? location = some (.directory entries) → EntriesInOrder entries

theorem get?_directory_cons_self (name : String) (node : Node) (rest : List (String × Node))
    (below : Location) :
    (directory ((name, node) :: rest)).get? (name :: below) = node.get? below := by
  rw [get?, List.lookup_cons_self, Option.bind_some]

theorem get?_directory_cons_of_ne {name key : String} (differs : key ≠ name) (node : Node)
    (rest : List (String × Node)) (below : Location) :
    (directory ((name, node) :: rest)).get? (key :: below) =
      (directory rest).get? (key :: below) := by
  rw [get?, get?, List.lookup_cons, beq_false_of_ne differs]

theorem mem_names_of_get? {entries : List (String × Node)} {name : String} {below : Location}
    {inner : Node} (found : (directory entries).get? (name :: below) = some inner) :
    name ∈ entries.map Prod.fst := by
  obtain ⟨node, listed, -⟩ := Option.bind_eq_some_iff.mp found
  exact mem_names_of_lookup listed

namespace Ordered

theorem below {top node : Node} {location : Location} (ordered : top.Ordered)
    (found : top.get? location = some node) : node.Ordered := by
  intro more entries deeper
  have whole : top.get? (location ++ more) = some (.directory entries) := by
    rw [get?_append, found, Option.bind_some, deeper]
  exact ordered whole

/-- Only proper names lead through an ordered tree. -/
theorem isName {top node : Node} {location : Location} (ordered : top.Ordered)
    (found : top.get? location = some node) : ∀ name ∈ location, Walk.IsName name := by
  intro name among
  obtain ⟨front, back, rfl⟩ := List.append_of_mem among
  obtain ⟨entries, inFront⟩ := hasDirectory_of_get?_append found
  rw [get?_append, inFront, Option.bind_some] at found
  exact (ordered inFront).named name (mem_names_of_get? found)

section Entries

variable {name : String} {node : Node} {rest : List (String × Node)}
  (ordered : (directory ((name, node) :: rest)).Ordered)

include ordered

theorem first_before {key : String} (among : key ∈ rest.map Prod.fst) :
    Text.ByteBefore name key :=
  (ordered (get?_nil _)).before among

theorem ne_first {key : String} (among : key ∈ rest.map Prod.fst) : key ≠ name := by
  rintro rfl
  exact Text.not_byteBefore_self key (ordered.first_before among)

theorem head : node.Ordered :=
  ordered.below ((get?_directory_cons_self name node rest []).trans (get?_nil node))

theorem tail : (directory rest).Ordered := by
  intro location entries found
  cases location with
  | nil =>
      cases found
      exact (ordered (get?_nil _)).tail
  | cons key below =>
      have differs := ordered.ne_first (mem_names_of_get? found)
      rw [← get?_directory_cons_of_ne differs node] at found
      exact ordered found

end Entries

theorem empty : (directory []).Ordered := by
  intro location entries found
  cases location with
  | nil =>
      cases found
      exact .nil
  | cons name below => cases found

theorem leaf {node : Node} (leaf : node.isDirectory = false) : node.Ordered := by
  intro location entries found
  cases node with
  | directory others => cases leaf
  | _ => cases location <;> cases found

theorem setEntry {entries : List (String × Node)} {name : String} {node : Node}
    (ordered : (directory entries).Ordered) (isName : Walk.IsName name) (inner : node.Ordered) :
    (directory (setEntry name node entries)).Ordered := by
  intro location others found
  cases location with
  | nil =>
      cases found
      exact (ordered (get?_nil _)).setEntry isName node
  | cons key below =>
      rw [get?, lookup_setEntry] at found
      split_ifs at found
      · exact inner found
      · exact @ordered (key :: below) others found

/-- An ordered tree stays ordered when an ordered one is put at a location of proper names. -/
theorem set {top new : Node} {location : Location} (ordered : top.Ordered)
    (names : ∀ name ∈ location, Walk.IsName name) (inner : new.Ordered) :
    (top.set location new).Ordered := by
  induction location generalizing top with
  | nil => exact inner
  | cons name rest ih =>
      obtain ⟨isName, others⟩ := List.forall_mem_cons.mp names
      cases top with
      | directory entries =>
          have listed : (entry entries name).Ordered := by
            rw [entry]
            cases found : entries.lookup name with
            | none => exact empty
            | some node =>
                have underName : (directory entries).get? [name] = some node := by
                  rw [get?, found, Option.bind_some, get?_nil]
                exact ordered.below underName
          exact ordered.setEntry isName (ih listed others)
      | _ => exact ordered

end Ordered

mutual

/-- What is listed below a node of an ordered tree is what locations lead to. -/
theorem mem_descendants {location : Location} {inner : Node} :
    (node : Node) → node.Ordered →
      ((location, inner) ∈ node.descendants ↔ location ≠ [] ∧ node.get? location = some inner)
  | .directory entries, ordered => mem_entryDescendants entries ordered
  | .file _ _, _ => by cases location <;> simp [descendants, get?]
  | .link _, _ => by cases location <;> simp [descendants, get?]
  | .device, _ => by cases location <;> simp [descendants, get?]

theorem mem_entryDescendants {location : Location} {inner : Node} :
    (entries : List (String × Node)) → (directory entries).Ordered →
      ((location, inner) ∈ entryDescendants entries ↔
        location ≠ [] ∧ (directory entries).get? location = some inner)
  | [], _ => by cases location <;> simp [entryDescendants, get?]
  | (name, node) :: rest, ordered => by
      rw [entryDescendants, List.mem_append, List.mem_cons, List.mem_map,
        mem_entryDescendants rest ordered.tail]
      cases location with
      | nil => simp
      | cons key below =>
          by_cases same : key = name
          · subst same
            have absent : (directory rest).get? (key :: below) ≠ some inner := fun found =>
              ordered.ne_first (mem_names_of_get? found) rfl
            have inside := @mem_descendants below inner node ordered.head
            rw [get?_directory_cons_self]
            cases below with
            | nil => simp [absent, inside, get?_nil, eq_comm]
            | cons next deeper => simp [absent, inside]
          · rw [get?_directory_cons_of_ne same]
            simp [same, Ne.symm same]

end

mutual

/-- The locations below a node of an ordered tree increase, as lists of names. -/
theorem pairwise_descendants :
    (node : Node) → node.Ordered →
      (node.descendants.map Prod.fst).Pairwise (List.Lex Text.ByteBefore)
  | .directory entries, ordered => pairwise_entryDescendants entries ordered
  | .file _ _, _ => .nil
  | .link _, _ => .nil
  | .device, _ => .nil

theorem pairwise_entryDescendants :
    (entries : List (String × Node)) → (directory entries).Ordered →
      ((entryDescendants entries).map Prod.fst).Pairwise (List.Lex Text.ByteBefore)
  | [], _ => .nil
  | (name, node) :: rest, ordered => by
      have inside := pairwise_descendants node ordered.head
      have outside := pairwise_entryDescendants rest ordered.tail
      rw [entryDescendants, List.map_append, List.map_cons, List.map_map]
      refine List.pairwise_append.mpr ⟨List.pairwise_cons.mpr ⟨?_, ?_⟩, outside, ?_⟩
      · -- The entry itself comes before what is below it.
        intro location among
        obtain ⟨⟨below, inner⟩, listed, rfl⟩ := List.mem_map.mp among
        obtain ⟨next, deeper, rfl⟩ := List.exists_cons_of_ne_nil
          ((mem_descendants node ordered.head).mp listed).1
        exact .cons .nil
      · have prefixed := inside.map (name :: ·) fun _ _ less => List.Lex.cons less
        rwa [List.map_map] at prefixed
      · -- Everything in the entry comes before the entries after it.
        intro location among other later
        obtain ⟨below, rfl⟩ : ∃ below, location = name :: below := by
          obtain rfl | among := List.mem_cons.mp among
          · exact ⟨[], rfl⟩
          · obtain ⟨entry, -, rfl⟩ := List.mem_map.mp among
            exact ⟨entry.1, rfl⟩
        obtain ⟨⟨_, inner⟩, listed, rfl⟩ := List.mem_map.mp later
        obtain ⟨filled, found⟩ := (mem_entryDescendants rest ordered.tail).mp listed
        obtain ⟨key, deeper, rfl⟩ := List.exists_cons_of_ne_nil filled
        exact .rel (ordered.first_before (mem_names_of_get? found))

end

theorem mem_files {entries : List (String × Node)} (ordered : (directory entries).Ordered)
    {location : Location} :
    location ∈ (directory entries).files ↔ (directory entries).HasFile location := by
  rw [files, List.mem_map]
  constructor
  · rintro ⟨⟨_, node⟩, listed, rfl⟩
    obtain ⟨listed, isFile⟩ := List.mem_filter.mp listed
    obtain ⟨-, found⟩ := (mem_descendants _ ordered).mp listed
    cases node with
    | file content executable => exact ⟨content, executable, found⟩
    | _ => cases isFile
  · intro hasFile
    have below := hasFile.ne_nil
    obtain ⟨content, executable, found⟩ := hasFile
    have listed := (mem_descendants _ ordered).mpr ⟨below, found⟩
    exact ⟨(location, file content executable), List.mem_filter.mpr ⟨listed, rfl⟩, rfl⟩

theorem pairwise_files {node : Node} (ordered : node.Ordered) :
    node.files.Pairwise (List.Lex Text.ByteBefore) :=
  (pairwise_descendants node ordered).sublist (List.filter_sublist.map Prod.fst)

end Node

end PapyrusWriter
