import Mathlib.Data.List.DropRight
import PapyrusWriter.Proofs.FileWrites
/-!
# Entries of a directory

A path that goes through a directory and on to a name leads to the entry of that name, or to where
the link of that name leads (`Node.EntryOf`). This holds for what is joined to a directory, as long
as it has no separator (`entryOf_of_place?_join`), and for any path, seen from its own directory
(`entryOf_of_place?`): up to pieces that name nothing, a path is one component below its directory
(`Path.oneBelow_directory`).

For every purpose, the walk up to the directory is the same, since purposes differ at the end of a
path only (`Walk.along_append`).
-/

namespace PapyrusWriter

set_option autoImplicit false

namespace Path

theorem split_of_notMem {piece : List Char} (plain : '/' ∉ piece) : split piece = [piece] := by
  induction piece with
  | nil => rfl
  | cons c rest ih =>
      simp only [List.mem_cons, not_or] at plain
      rw [split, if_neg (Ne.symm plain.1), ih plain.2]

theorem notMem_of_mem_split {text piece : List Char} (among : piece ∈ split text) :
    '/' ∉ piece := by
  induction text generalizing piece with
  | nil =>
      rw [split, List.mem_singleton] at among
      simp [among]
  | cons c rest ih =>
      obtain ⟨first, more, pieces⟩ := List.exists_cons_of_ne_nil (split_ne_nil rest)
      rw [split, pieces] at among
      rw [pieces] at ih
      split_ifs at among with separator
      · rcases List.mem_cons.mp among with rfl | later
        · simp
        · exact ih later
      · rcases List.mem_cons.mp among with rfl | later
        · simp [Ne.symm separator, ih List.mem_cons_self]
        · exact ih (List.mem_cons_of_mem _ later)

/-- Splitting undoes joining. -/
theorem split_unsplit {parts : List (List Char)} (filled : parts ≠ [])
    (plain : ∀ part ∈ parts, '/' ∉ part) : split (unsplit parts) = parts := by
  induction parts with
  | nil => exact absurd rfl filled
  | cons part rest ih =>
      obtain ⟨here, later⟩ := List.forall_mem_cons.mp plain
      cases rest with
      | nil => exact split_of_notMem here
      | cons next rest =>
          have joined : unsplit (part :: next :: rest) = part ++ '/' :: unsplit (next :: rest) :=
            rfl
          rw [joined, split_append, split_of_notMem here, ih (List.cons_ne_nil _ _) later,
            List.singleton_append]

/-- Only the empty text and absolute paths have an empty first piece. -/
theorem head?_of_split {text : List Char} {more : List (List Char)}
    (pieces : split text = [] :: more) (filled : text ≠ []) : text.head? = some '/' := by
  cases text with
  | nil => exact absurd rfl filled
  | cons c rest =>
      rw [split] at pieces
      split_ifs at pieces with separator
      · rw [separator, List.head?_cons]
      · obtain ⟨first, others, later⟩ := List.exists_cons_of_ne_nil (split_ne_nil rest)
        rw [later] at pieces
        cases pieces

/-- After the last component come trivial pieces. -/
theorem exists_upToComponent (parts : List (List Char)) :
    ∃ gap, (∀ piece ∈ gap, isTrivial piece = true) ∧ parts = upToComponent parts ++ gap := by
  refine ⟨parts.rtakeWhile isTrivial, fun piece => List.mem_rtakeWhile_imp, ?_⟩
  exact List.rdropWhile_append_rtakeWhile.symm

theorem pieces_of_last? {text : List Char} {before : List (List Char)} {component : List Char}
    (last : last? text = some (before, component)) :
    isTrivial component = false ∧ ∃ tail, (∀ piece ∈ tail, isTrivial piece = true) ∧
      pieces text = before ++ component :: tail := by
  unfold last? at last
  obtain ⟨tail, tails, parts⟩ := exists_upToComponent (pieces text)
  rw [upToComponent] at parts
  cases dropped : (pieces text).reverse.dropWhile isTrivial with
  | nil => rw [dropped] at last; cases last
  | cons found rest =>
      rw [dropped] at last parts
      cases last
      refine ⟨?_, tail, tails, by simpa using parts⟩
      have first := List.head_dropWhile_not isTrivial (l := (pieces text).reverse)
        (by simp [dropped])
      simpa [dropped] using first

theorem trivial_of_last?_eq_none {text : List Char} (none : last? text = none) :
    ∀ piece ∈ pieces text, isTrivial piece = true := by
  unfold last? at none
  cases dropped : (pieces text).reverse.dropWhile isTrivial with
  | nil => simpa [List.dropWhile_eq_nil_iff] using dropped
  | cons found rest => rw [dropped] at none; cases none

/-- The ways in which a path can start. -/
inductive Leads : List Char → Prop
  | root (rest : List Char) : Leads ('/' :: rest)
  | dot : Leads ['.']
  | here (rest : List Char) : Leads ('.' :: '/' :: rest)
  | plain (text : List Char) (none : lead text = []) (relative : text.head? ≠ some '/') : Leads text

theorem leads (text : List Char) : Leads text := by
  fun_cases lead text with
  | case1 rest => exact .root rest
  | case2 => exact .dot
  | case3 rest => exact .here rest
  | case4 text notRoot notDot notHere =>
      refine .plain text ?_ ?_
      · rw [lead]
        · exact notRoot
        · exact notDot
        · exact notHere
      · intro absolute
        obtain ⟨rest, rfl⟩ := List.head?_eq_some_iff.mp absolute
        exact notRoot rest rfl

/-- The pieces of a path are those of a directory and one component more, but for trivial pieces. -/
inductive OneBelow : List (List Char) → List (List Char) → Prop
  | intro (front : List (List Char)) {gap blanks tail : List (List Char)} {component : List Char}
      (gaps : ∀ piece ∈ gap, isTrivial piece = true)
      (blank : ∀ piece ∈ blanks, isTrivial piece = true)
      (tails : ∀ piece ∈ tail, isTrivial piece = true) (named : isTrivial component = false) :
      OneBelow (front ++ blanks) (front ++ (gap ++ component :: tail))

theorem OneBelow.cons {folder whole : List (List Char)} (below : OneBelow folder whole)
    (piece : List Char) : OneBelow (piece :: folder) (piece :: whole) := by
  cases below with
  | intro front gaps blank tails named => exact .intro (piece :: front) gaps blank tails named

/-- Up to its last component, a list of pieces is the directory of what comes after it. -/
theorem oneBelow_upToComponent {before tail : List (List Char)} {component : List Char}
    (plain : ∀ part ∈ before, '/' ∉ part) (named : isTrivial component = false)
    (tails : ∀ piece ∈ tail, isTrivial piece = true) :
    OneBelow (split (unsplit (upToComponent before))) (before ++ component :: tail) := by
  obtain ⟨gap, gaps, parts⟩ := exists_upToComponent before
  have whole : before ++ component :: tail =
      upToComponent before ++ (gap ++ component :: tail) := by
    rw [← List.append_assoc, ← parts]
  rw [whole]
  by_cases empty : upToComponent before = []
  · rw [empty]
    exact .intro [] gaps (by simp [isTrivial]) tails named
  · have split : split (unsplit (upToComponent before)) = upToComponent before ++ [] := by
      rw [List.append_nil]
      refine split_unsplit empty fun part among => plain part ?_
      rw [parts]
      exact List.mem_append_left gap among
    rw [split]
    exact .intro _ gaps (by simp) tails named

/-- A directory that names nothing may be written in any other such way. -/
theorem OneBelow.of_trivial {folder whole blanks : List (List Char)} (below : OneBelow folder whole)
    (nothing : ∀ piece ∈ folder, isTrivial piece = true)
    (blank : ∀ piece ∈ blanks, isTrivial piece = true) : OneBelow blanks whole := by
  cases below with
  | intro front gaps _ tails named =>
      have fronts : ∀ piece ∈ front, isTrivial piece = true :=
        fun piece among => nothing piece (List.mem_append_left _ among)
      rw [← List.append_assoc]
      refine .intro [] (fun piece among => ?_) blank tails named
      rcases List.mem_append.mp among with early | late
      · exact fronts piece early
      · exact gaps piece late

/-- A trivial first piece may be any other one. -/
theorem OneBelow.start {folder whole : List (List Char)} {first second other : List Char}
    (below : OneBelow (first :: folder) (second :: whole)) (nothing : isTrivial second = true)
    (blank : isTrivial other = true) : OneBelow (other :: folder) (other :: whole) := by
  generalize parts : first :: folder = here at below
  generalize pieces : second :: whole = there at below
  cases below with
  | intro front gaps blanks tails named =>
      cases front with
      | nil =>
          rename_i gap _ _ component
          rw [List.nil_append] at parts pieces
          subst parts
          cases gap with
          | nil =>
              obtain ⟨rfl, -⟩ := List.cons.inj pieces
              rw [nothing] at named
              cases named
          | cons piece gap =>
              obtain ⟨-, rfl⟩ := List.cons.inj pieces
              obtain ⟨-, later⟩ := List.forall_mem_cons.mp blanks
              obtain ⟨-, more⟩ := List.forall_mem_cons.mp gaps
              exact .intro [] (List.forall_mem_cons.mpr ⟨blank, more⟩)
                (List.forall_mem_cons.mpr ⟨blank, later⟩) tails named
      | cons piece front =>
          obtain ⟨-, rfl⟩ := List.cons.inj parts
          obtain ⟨-, rfl⟩ := List.cons.inj pieces
          exact .intro (other :: front) gaps blanks tails named

theorem toList_directory {path : String} {before : List (List Char)} {component : List Char}
    (last : last? path.toList = some (before, component)) :
    (directory path).toList =
      if lead path.toList ++ unsplit (upToComponent before) = [] then ['.']
      else lead path.toList ++ unsplit (upToComponent before) := by
  have parent : parent? path =
      some (String.ofList (lead path.toList ++ unsplit (upToComponent before))) := by
    rw [parent?, last]
  rw [directory, parent]
  simp only [String.ofList_eq_empty_iff]
  split_ifs
  · rfl
  · rw [String.toList_ofList]

theorem split_trivial_of_last?_eq_none {text : List Char} (none : last? text = none) :
    ∀ piece ∈ split text, isTrivial piece = true := by
  have pieces := trivial_of_last?_eq_none none
  cases leads text with
  | root rest => exact List.forall_mem_cons.mpr ⟨rfl, pieces⟩
  | dot => exact List.forall_mem_cons.mpr ⟨rfl, by simp⟩
  | here rest => exact List.forall_mem_cons.mpr ⟨rfl, (List.forall_mem_cons.mp pieces).2⟩
  | plain text unled _ =>
      rwa [Path.pieces, unled] at pieces

theorem directory_of_last?_eq_none {path : String} (none : last? path.toList = none) :
    directory path = "." := by
  rw [directory, parent?, none]
  simp only
  split_ifs <;> rfl

/-- Pieces of which the first is empty are joined to a text with an empty first piece. -/
theorem exists_split_unsplit {parts : List (List Char)}
    (first : ∀ piece ∈ parts.head?, piece = []) : ∃ more, split (unsplit parts) = [] :: more := by
  match parts with
  | [] => exact ⟨[], rfl⟩
  | [piece] =>
      obtain rfl := first piece rfl
      exact ⟨[], rfl⟩
  | piece :: next :: rest =>
      obtain rfl := first piece rfl
      exact ⟨_, rfl⟩

/-- A path is one component below its directory. -/
theorem oneBelow_directory {path : String} {before : List (List Char)} {component : List Char}
    (last : last? path.toList = some (before, component)) :
    OneBelow (split (directory path).toList) (split path.toList) ∧
      ((directory path).toList.head? = some '/' ↔ path.toList.head? = some '/') := by
  obtain ⟨named, tail, tails, parts⟩ := pieces_of_last? last
  have plain : ∀ part ∈ before, '/' ∉ part := by
    intro part among
    have member : part ∈ pieces path.toList := by
      rw [parts]
      exact List.mem_append_left _ among
    exact notMem_of_mem_split member
  have below := oneBelow_upToComponent plain named tails
  rw [← parts] at below
  obtain ⟨gap, -, beforeParts⟩ := exists_upToComponent before
  rw [toList_directory last]
  generalize path.toList = text at last parts below ⊢
  cases leads text with
  | root rest =>
      rw [if_neg (by simp [lead])]
      exact ⟨below.cons [], iff_of_true rfl rfl⟩
  | dot => cases last
  | here rest =>
      rw [if_neg (by simp [lead])]
      -- The pieces after the dot start with an empty one, so those before the last component do.
      have parts : [] :: split rest = before ++ component :: tail := parts
      have first : ∀ piece ∈ (upToComponent before).head?, piece = [] := by
        intro piece head
        obtain ⟨more, spelled⟩ := List.head?_eq_some_iff.mp head
        rw [beforeParts, spelled] at parts
        exact (List.cons.inj parts).1.symm
      obtain ⟨more, split⟩ := exists_split_unsplit first
      have dotted : Path.split ('.' :: unsplit (upToComponent before)) = ['.'] :: more := by
        rw [Path.split, split]
        rfl
      refine ⟨?_, iff_of_false (by simp [lead]) (by simp)⟩
      show OneBelow (Path.split ('.' :: unsplit (upToComponent before))) (['.'] :: Path.split rest)
      rw [split] at below
      rw [dotted]
      exact below.start rfl rfl
  | plain text unled relative =>
      rw [unled, List.nil_append]
      rw [pieces, unled, List.length_nil, List.drop_zero] at parts below
      split_ifs with empty
      · rw [empty] at below
        refine ⟨below.of_trivial (by simp [split, isTrivial]) (by simp [split, isTrivial]), ?_⟩
        exact iff_of_false (by simp) relative
      · refine ⟨below, iff_of_false (fun absolute => ?_) relative⟩
        -- The directory starts like the path.
        have filled : upToComponent before ≠ [] := by
          intro none
          rw [none] at empty
          exact empty rfl
        have parted : split (unsplit (upToComponent before)) = upToComponent before := by
          refine split_unsplit filled fun part among => plain part ?_
          rw [beforeParts]
          exact List.mem_append_left gap among
        obtain ⟨rest, spelled⟩ := List.head?_eq_some_iff.mp absolute
        rw [spelled] at parted
        have whole : split text = [] :: (split rest ++ (gap ++ component :: tail)) := by
          rw [parts, beforeParts, ← parted, List.append_assoc]
          rfl
        refine relative (head?_of_split whole ?_)
        rintro rfl
        cases last

end Path
namespace Node

/-- A location under a name of a directory: the entry itself, or wherever its link leads. -/
def EntryOf (top : Node) (folder : Location) (name : String) (location : Location) : Prop :=
  location = folder ++ [name] ∨ ∃ target, top.get? (folder ++ [name]) = some (.link target)

end Node

namespace Walk

/-! ## The last component of a path -/

theorem isBlank_ofList {piece : List Char} :
    IsBlank (String.ofList piece) ↔ Path.isTrivial piece = true := by
  simp only [IsBlank, Path.isTrivial, Bool.or_eq_true, decide_eq_true_eq]
  refine or_congr String.ofList_eq_empty_iff ?_
  rw [← String.toList_inj, String.toList_ofList]
  rfl

theorem blank_of_trivial {pieces : List (List Char)}
    (nothing : ∀ piece ∈ pieces, Path.isTrivial piece = true) :
    ∀ piece ∈ pieces.map String.ofList, IsBlank piece :=
  List.forall_mem_map.mpr fun piece among => isBlank_ofList.mpr (nothing piece among)

theorem place?_blanks (top : Node) (links : Nat) (here : Location) {blanks : List String}
    (blank : ∀ piece ∈ blanks, IsBlank piece) : place? top links here blanks = some here := by
  cases links with
  | zero => exact placeWith_blanks blank
  | succ links => exact placeWith_blanks blank

section Components

variable {top : Node} {place : Location → List String → Option Location} {here location : Location}

theorem placeWith_blanks_append {blanks : List String} (blank : ∀ piece ∈ blanks, IsBlank piece)
    (rest : List String) :
    placeWith top place here (blanks ++ rest) = placeWith top place here rest := by
  induction blanks with
  | nil => rfl
  | cons piece others ih =>
      obtain ⟨first, later⟩ := List.forall_mem_cons.mp blank
      rw [List.cons_append, placeWith, move_blank first]
      exact ih later

/-- Seen from a directory, a component leads to its entry, through it if that is a link, or to a
directory. -/
theorem placeWith_component {gap tail : List String} (gaps : ∀ piece ∈ gap, IsBlank piece)
    (tails : ∀ piece ∈ tail, IsBlank piece) {component : String} (named : ¬ IsBlank component)
    (directory : top.HasDirectory here)
    (led : placeWith top place here (gap ++ component :: tail) = some location) :
    top.EntryOf here component location ∨ top.HasDirectory location := by
  rw [placeWith_blanks_append gaps, placeWith] at led
  have reason := reason_move top here component
  cases moved : move top here component with
  | refuse => rw [moved] at led; cases led
  | goTo next =>
      rw [moved] at led reason
      have ended : next = location := Option.some.inj ((placeWith_blanks tails).symm.trans led)
      subst ended
      cases reason with
      | stay blank => exact absurd blank named
      | up => exact .inr directory.dropLast
      | enter entries found => exact .inr ⟨entries, found⟩
  | follow next target =>
      rw [moved] at reason
      cases reason with
      | link target found => exact .inl (.inr ⟨target, found⟩)
  | leaf last =>
      rw [moved] at led reason
      simp only at led
      split_ifs at led
      cases led
      cases reason with
      | leaf => exact .inl (.inl rfl)

end Components

theorem place?_component {top : Node} {links : Nat} {here location : Location}
    {gap tail : List String} (gaps : ∀ piece ∈ gap, IsBlank piece)
    (tails : ∀ piece ∈ tail, IsBlank piece) {component : String} (named : ¬ IsBlank component)
    (directory : top.HasDirectory here)
    (led : place? top links here (gap ++ component :: tail) = some location) :
    top.EntryOf here component location ∨ top.HasDirectory location := by
  cases links with
  | zero => exact placeWith_component gaps tails named directory led
  | succ links => exact placeWith_component gaps tails named directory led

end Walk

namespace FileSystem

variable {files : FileSystem} {folder location : Location}

/-- What is joined to a directory, seen from there. -/
theorem entryOf_of_place?_join {base name : String} (toFolder : files.place? base = some folder)
    (directory : files.top.HasDirectory folder) (plain : '/' ∉ name.toList)
    (led : files.place? (Path.join base name) = some location) :
    files.top.EntryOf folder name location ∨ files.top.HasDirectory location := by
  unfold place? at toFolder led
  split_ifs at toFolder led with improper
  obtain ⟨-, absolute | empty⟩ | ⟨filled, front, ends, text⟩ := Path.join_cases base name
  · exact absurd (List.mem_of_head? absolute) plain
  · subst empty
    exact absurd rfl improper
  · obtain ⟨parts, blanks, blank, split, joined⟩ := Walk.pieces_join ends text
    have alone : Walk.pieces name = [name] := by
      rw [Walk.pieces, Path.split_of_notMem plain, List.map_singleton, String.ofList_toList]
    rw [split] at toFolder
    rw [joined, alone, Walk.start_join ends text filled] at led
    obtain ⟨left, onward⟩ := Walk.place?_append blank directory toFolder
    rw [onward] at led
    by_cases nothing : Walk.IsBlank name
    · have blanks : ∀ piece ∈ [name], Walk.IsBlank piece := by simpa using nothing
      have stayed := Walk.place?_blanks files.top left folder blanks
      cases stayed.symm.trans led
      exact .inr directory
    · have led : Walk.place? files.top left folder ([] ++ name :: []) = some location := led
      exact Walk.place?_component (by simp) (by simp) nothing directory led

/-- A path, seen from its directory. -/
theorem entryOf_of_place? {path : String}
    (toFolder : files.place? (Path.directory path) = some folder)
    (directory : files.top.HasDirectory folder) (led : files.place? path = some location) :
    (∃ name, files.top.EntryOf folder name location) ∨ files.top.HasDirectory location := by
  unfold place? at toFolder led
  split_ifs at toFolder led
  cases last : Path.last? path.toList with
  | none =>
      -- The path has no component: it leads to the top, or to the current directory.
      have blanks := Walk.blank_of_trivial (Path.split_trivial_of_last?_eq_none last)
      have stayed := Walk.place?_blanks files.top Walk.linkLimit (Walk.start files.here path) blanks
      cases stayed.symm.trans led
      rw [Path.directory_of_last?_eq_none last] at toFolder
      have current : ∀ piece ∈ Walk.pieces ".", Walk.IsBlank piece := by
        rw [show Walk.pieces "." = ["."] from rfl]
        simp [Walk.IsBlank]
      have here := Walk.place?_blanks files.top Walk.linkLimit (Walk.start files.here ".") current
      obtain rfl : files.here = folder := Option.some.inj (here.symm.trans toFolder)
      refine .inr ?_
      rw [Walk.start_eq]
      split_ifs
      · exact directory.root
      · exact directory
  | some found =>
      obtain ⟨below, absolute⟩ := Path.oneBelow_directory last
      have starts : Walk.start files.here path = Walk.start files.here (Path.directory path) := by
        simp only [Walk.start_eq, absolute]
      rw [Walk.pieces] at toFolder led
      generalize Path.split (Path.directory path).toList = above at below toFolder
      generalize Path.split path.toList = whole at below led
      cases below with
      | intro front gaps blank tails named =>
          rw [List.map_append] at toFolder
          rw [List.map_append, List.map_append, List.map_cons, starts] at led
          obtain ⟨left, onward⟩ :=
            Walk.place?_append (Walk.blank_of_trivial blank) directory toFolder
          rw [onward] at led
          have unnamed := mt Walk.isBlank_ofList.mp (Bool.not_eq_true _ ▸ named)
          exact (Walk.place?_component (Walk.blank_of_trivial gaps) (Walk.blank_of_trivial tails)
            unnamed directory led).imp_left fun entry => ⟨_, entry⟩

end FileSystem

end PapyrusWriter
