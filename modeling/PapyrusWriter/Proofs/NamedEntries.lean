import PapyrusWriter.Proofs.DirectoryEntries
/-!
# Names in a directory

A path that goes on after a directory is followed from there, for whatever purpose
(`Walk.along_append`). So a name that is joined to a directory's path is looked up in that
directory, as long as no link is to be followed (`FileSystem.locate_join_name`).

A new directory takes a name that was free. Only paths to that name, or through it, lead elsewhere
afterwards: a path that led to something still leads there (`FileSystem.place?_set_directory`).
-/

namespace PapyrusWriter

set_option autoImplicit false

namespace Walk

/-- The path goes on: it has a piece that is not empty. -/
def Onward (path : List String) : Prop := ∃ piece ∈ path, piece ≠ ""

theorem Onward.append {back : List String} (onward : Onward back) (front : List String) :
    Onward (front ++ back) := by
  obtain ⟨piece, among, filled⟩ := onward
  exact ⟨piece, List.mem_append_right front among, filled⟩

theorem Onward.ne_nil {path : List String} (onward : Onward path) : path ≠ [] := by
  rintro rfl
  obtain ⟨piece, among, -⟩ := onward
  cases among

theorem Onward.not_all {path : List String} (onward : Onward path) :
    path.all (· = "") = false := by
  obtain ⟨piece, among, filled⟩ := onward
  rw [List.all_eq_false]
  exact ⟨piece, among, by simpa using filled⟩

section Steps

variable {top : Node} {purpose : Purpose}
  {follow : Location → List String → Except SystemError Spot} {here : Location} {piece : String}
  {rest : List String}

theorem alongWith_goTo_of_onward (onward : Onward rest) {next : Location}
    (moved : move top here piece = .goTo next) :
    alongWith top purpose follow here (piece :: rest) =
      alongWith top purpose follow next rest := by
  have inside := onward.ne_nil
  have unended := onward.not_all
  grind [alongWith, move]

theorem alongWith_follow_of_onward (onward : Onward rest) {next : Location}
    {target : List String} (moved : move top here piece = .follow next target) :
    alongWith top purpose follow here (piece :: rest) = follow next (target ++ rest) := by
  have inside := onward.ne_nil
  have unended := onward.not_all
  grind [alongWith, move]

end Steps

theorem alongWith_append {top : Node} {purpose : Purpose}
    {place : Location → List String → Option Location}
    {follow : Location → List String → Except SystemError Spot} {location : Location}
    {blanks : List String} (blank : ∀ piece ∈ blanks, IsBlank piece)
    (directory : top.HasDirectory location)
    (stayed : ∃ left, alongWith top purpose follow = along top purpose left)
    (followed : ∀ next path, place next (path ++ blanks) = some location →
      ∃ left, ∀ back, Onward back →
        follow next (path ++ back) = along top purpose left location back)
    {here : Location} {front : List String}
    (led : placeWith top place here (front ++ blanks) = some location) :
    ∃ left, ∀ back, Onward back →
      alongWith top purpose follow here (front ++ back) =
        along top purpose left location back := by
  induction front generalizing here with
  | nil =>
      rw [List.nil_append, placeWith_blanks blank, Option.some.injEq] at led
      obtain ⟨left, same⟩ := stayed
      exact ⟨left, fun back _ => by rw [List.nil_append, same, led]⟩
  | cons piece rest ih =>
      rw [List.cons_append, placeWith] at led
      have reason := reason_move top here piece
      cases moved : move top here piece with
      | goTo next =>
          rw [moved] at led
          obtain ⟨left, same⟩ := ih led
          refine ⟨left, fun back onward => ?_⟩
          rw [List.cons_append, alongWith_goTo_of_onward (onward.append rest) moved]
          exact same back onward
      | follow next target =>
          rw [moved] at led
          simp only [← List.append_assoc] at led
          obtain ⟨left, same⟩ := followed _ _ led
          refine ⟨left, fun back onward => ?_⟩
          rw [List.cons_append, alongWith_follow_of_onward (onward.append rest) moved,
            ← List.append_assoc]
          exact same back onward
      | refuse => rw [moved] at led; cases led
      | leaf last =>
          -- A leaf is no directory, so the path would not have led to one.
          rw [moved] at led reason
          obtain ⟨entries, found⟩ := directory
          simp only at led
          split_ifs at led
          cases led
          cases reason with
          | leaf noDirectory => exact absurd found (noDirectory entries)

/-- After a path to a directory, a walk for any purpose goes on from there. -/
theorem along_append {top : Node} (purpose : Purpose) {links : Nat} {here location : Location}
    {front blanks : List String} (blank : ∀ piece ∈ blanks, IsBlank piece)
    (directory : top.HasDirectory location)
    (led : place? top links here (front ++ blanks) = some location) :
    ∃ left, ∀ back, Onward back →
      along top purpose links here (front ++ back) = along top purpose left location back := by
  induction links generalizing here front with
  | zero =>
      refine alongWith_append blank directory ⟨0, rfl⟩ ?_ led
      intro _ _ refused
      cases refused
  | succ links ih =>
      exact alongWith_append blank directory ⟨links + 1, rfl⟩ (fun _ _ => ih) led

/-- A name that an entry of a directory can have. -/
structure IsName (name : String) : Prop where
  named : ¬ IsBlank name
  below : name ≠ ".."
  short : name.utf8ByteSize ≤ nameLimit
  whole : '/' ∉ name.toList
  nulless : '\x00' ∉ name.toList

section Name

variable {top : Node} {purpose : Purpose} {here : Location} {name : String} (isName : IsName name)
  (unfollowed : purpose = .entry ∨ ∀ target, top.get? (here ++ [name]) ≠ some (.link target))

include isName unfollowed

theorem alongWith_name (follow : Location → List String → Except SystemError Spot) :
    alongWith top purpose follow here [name] =
      .ok ((top.get? (here ++ [name])).elim (.free (here ++ [name]))
        (.found (here ++ [name]))) := by
  have unskipped : ¬ (name = "" || name = ".") = true := by
    simpa [IsBlank] using isName.named
  have fits : ¬ nameLimit < name.utf8ByteSize := Nat.not_lt.mpr isName.short
  rw [alongWith, if_neg unskipped, if_neg isName.below, if_neg (by simp), if_neg fits]
  cases found : top.get? (here ++ [name]) with
  | none => simp [found]
  | some node =>
      cases node with
      | directory entries => simp [found, alongWith]
      | link target =>
          have entry : purpose = .entry :=
            unfollowed.resolve_right fun others => others target found
          simp [found, entry]
      | _ => simp [found]

/-- From a directory, a walk finds the entry of a name, unless it has to follow a link. -/
theorem along_name (links : Nat) :
    along top purpose links here [name] =
      .ok ((top.get? (here ++ [name])).elim (.free (here ++ [name]))
        (.found (here ++ [name]))) := by
  cases links with
  | zero => exact alongWith_name isName unfollowed _
  | succ links => exact alongWith_name isName unfollowed _

end Name

theorem IsName.onward {name : String} (isName : IsName name) : Onward [name] :=
  ⟨name, List.mem_singleton_self name, fun empty => isName.named (.inl empty)⟩

theorem IsName.pieces {name : String} (isName : IsName name) : pieces name = [name] := by
  rw [Walk.pieces, Path.split_of_notMem isName.whole, List.map_singleton, String.ofList_toList]

section NewDirectory

variable {slot : Location} {top other : Node}
  (elsewhere : ∀ location, location ≠ slot →
    Node.SameKind (top.get? location) (other.get? location))
  (free : top.get? slot = none)

include elsewhere free

theorem move_eq_or_leaf (here : Location) (piece : String) :
    move top here piece = move other here piece ∨ move top here piece = .leaf slot := by
  by_cases atSlot : here ++ [piece] = slot
  · unfold move
    rw [atSlot, free]
    split_ifs
    · exact .inl rfl
    · exact .inl rfl
    · exact .inl rfl
    · exact .inr rfl
  · exact .inl (move_congr (elsewhere _ atSlot))

theorem placeWith_of_free {location : Location} {node : Node}
    (found : top.get? location = some node)
    {place place' : Location → List String → Option Location}
    (followed : ∀ next path, place next path = some location →
      place' next path = some location)
    {here : Location} {path : List String} (led : placeWith top place here path = some location) :
    placeWith other place' here path = some location := by
  induction path generalizing here with
  | nil => exact led
  | cons piece rest ih =>
      rw [placeWith] at led ⊢
      obtain same | leaf := move_eq_or_leaf elsewhere free here piece
      · rw [← same]
        cases moved : move top here piece with
        | goTo next => rw [moved] at led; exact ih led
        | follow next target => rw [moved] at led; exact followed _ _ led
        | refuse => rw [moved] at led; cases led
        | leaf last => rw [moved] at led; exact led
      · -- The path would end at the free name, but it leads to something.
        simp only [leaf] at led
        split_ifs at led
        cases led
        cases free.symm.trans found

theorem place?_of_free {location : Location} {node : Node}
    (found : top.get? location = some node) {links : Nat} {here : Location} {path : List String}
    (led : place? top links here path = some location) :
    place? other links here path = some location := by
  induction links generalizing here path with
  | zero => exact placeWith_of_free elsewhere free found (fun _ _ refused => refused) led
  | succ links ih => exact placeWith_of_free elsewhere free found (fun _ _ => ih) led

end NewDirectory

end Walk

namespace Node

/-- Nothing is in a new directory. -/
theorem get?_directory_nil {below : Location} (deeper : below ≠ []) :
    (directory []).get? below = none := by
  obtain ⟨name, rest, rfl⟩ := List.exists_cons_of_ne_nil deeper
  rfl

end Node

namespace FileSystem

variable {files : FileSystem} {folder : Location}

section Name

variable {base name : String} (toFolder : files.place? base = some folder)
  (directory : files.top.HasDirectory folder) (isName : Walk.IsName name)

include toFolder directory isName

/-- A name that is joined to a directory is looked up there, unless the path is too long or a link
is to be followed. -/
theorem locate_join_name (purpose : Purpose)
    (short : (Path.join base name).utf8ByteSize ≤ Walk.pathLimit)
    (unfollowed : purpose = .entry ∨
      ∀ target, files.top.get? (folder ++ [name]) ≠ some (.link target)) :
    files.locate purpose (Path.join base name) =
      .ok ((files.top.get? (folder ++ [name])).elim (.free (folder ++ [name]))
        (.found (folder ++ [name]))) := by
  unfold place? at toFolder
  split_ifs at toFolder with improper
  simp only [Bool.or_eq_true, decide_eq_true_eq, not_or] at improper
  obtain ⟨-, absolute | empty⟩ | ⟨filled, front, ends, text⟩ := Path.join_cases base name
  · exact absurd (List.mem_of_head? absolute) isName.whole
  · exact absurd empty improper.1.2
  · have nulless : ¬ (Path.join base name).toList.contains '\x00' = true := by
      have inBase := improper.1.1
      simp only [List.contains_iff_mem] at inBase ⊢
      rw [text]
      simp only [List.mem_append, List.mem_cons, not_or]
      refine ⟨fun inFront => inBase ?_, by decide, isName.nulless⟩
      rcases ends with whole | whole <;> rw [whole]
      · exact inFront
      · exact List.mem_append_left _ inFront
    have spelled : Path.join base name ≠ "" := by
      intro empty
      rw [empty] at text
      simp at text
    rw [locate, if_neg nulless, if_neg spelled, if_neg (Nat.not_lt.mpr short)]
    obtain ⟨parts, blanks, blank, split, joined⟩ := Walk.pieces_join ends text
    rw [split] at toFolder
    obtain ⟨left, onward⟩ := Walk.along_append purpose blank directory toFolder
    rw [joined, isName.pieces, Walk.start_join ends text filled, onward [name] isName.onward]
    exact Walk.along_name isName unfollowed left

/-- A new directory with a name in another takes that name, which was free. -/
theorem createDirectory_join_name {after : FileSystem}
    (created : files.createDirectory (Path.join base name) = .ok after) :
    files.top.get? (folder ++ [name]) = none ∧
      after = { files with top := files.top.set (folder ++ [name]) (.directory []) } := by
  have short : (Path.join base name).utf8ByteSize ≤ Walk.pathLimit := by
    rw [createDirectory, locate] at created
    split_ifs at created with _ _ long
    exact Nat.not_lt.mp long
  have located := locate_join_name toFolder directory isName .entry short (.inl rfl)
  rw [createDirectory, located] at created
  cases found : files.top.get? (folder ++ [name]) with
  | none =>
      rw [found] at created
      cases created
      exact ⟨rfl, rfl⟩
  | some node =>
      rw [found] at created
      cases created

end Name

/-- What a path leads to is still there when a free name becomes a directory. -/
theorem place?_set_directory {slot location : Location} {node : Node} {path : String}
    (isSlot : files.top.Slot slot) (free : files.top.get? slot = none)
    (led : files.place? path = some location) (found : files.top.get? location = some node) :
    { files with top := files.top.set slot (.directory []) }.place? path = some location := by
  unfold place? at led ⊢
  split_ifs at led with improper
  rw [if_neg improper]
  exact Walk.place?_of_free (fun _ => isSlot.sameKind_set Node.get?_directory_nil) free found led

end FileSystem

end PapyrusWriter
