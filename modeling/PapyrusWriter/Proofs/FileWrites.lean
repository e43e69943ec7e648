import PapyrusWriter.Proofs.Places
/-!
# Writing files

A write changes one file at most (`content?_write`). If its path goes through a directory, it is a
`Put`: no path leads elsewhere than before, and only paths to that file notice.
-/

namespace PapyrusWriter

set_option autoImplicit false

namespace Path

theorem split_ne_nil (text : List Char) : split text ≠ [] := by
  fun_induction split text <;> exact List.cons_ne_nil _ _

theorem split_append (front back : List Char) :
    split (front ++ '/' :: back) = split front ++ split back := by
  induction front with
  | nil => rfl
  | cons c rest ih =>
      rw [List.cons_append, split, split]
      split_ifs with separator
      · rw [ih, List.cons_append]
      · obtain ⟨piece, more, pieces⟩ := List.exists_cons_of_ne_nil (split_ne_nil rest)
        rw [ih, pieces]
        rfl

/-- What is joined to a directory comes after a separator, which the directory's own text may have.
-/
theorem join_cases (base path : String) :
    join base path = path ∧ (path.toList.head? = some '/' ∨ base = "") ∨
      base ≠ "" ∧ ∃ front, (base.toList = front ∨ base.toList = front ++ ['/']) ∧
        (join base path).toList = front ++ '/' :: path.toList := by
  unfold join
  split
  · rename_i absolute
    exact .inl ⟨rfl, .inl (by rw [absolute]; rfl)⟩
  · cases last : base.toList.getLast? with
    | none =>
        have empty : base = "" := by
          rw [← String.toList_eq_nil_iff]
          exact List.getLast?_eq_none_iff.mp last
        exact .inl ⟨rfl, .inr empty⟩
    | some c =>
        obtain ⟨front, ends⟩ := List.getLast?_eq_some_iff.mp last
        have filled : base ≠ "" := by
          rintro rfl
          cases last
        refine .inr ⟨filled, ?_⟩
        by_cases separator : c = '/'
        · subst separator
          refine ⟨front, .inr ends, ?_⟩
          show (base ++ path).toList = _
          rw [String.toList_append, ends, List.append_assoc]
          rfl
        · refine ⟨base.toList, .inl rfl, ?_⟩
          have text : (base ++ "/" ++ path).toList = base.toList ++ '/' :: path.toList := by
            rw [String.toList_append, String.toList_append, List.append_assoc]
            rfl
          simpa only [Option.some.injEq, separator] using text

end Path

namespace Walk

theorem start_eq (here : Location) (path : String) :
    start here path = if path.toList.head? = some '/' then [] else here := by
  unfold start
  split
  · rename_i absolute
    rw [absolute]
    rfl
  · rename_i relative
    rw [if_neg]
    intro absolute
    obtain ⟨rest, text⟩ := List.head?_eq_some_iff.mp absolute
    exact relative rest text

section Join

variable {base path : String} {front : List Char}
  (ends : base.toList = front ∨ base.toList = front ++ ['/'])
  (text : (Path.join base path).toList = front ++ '/' :: path.toList)

include ends text

theorem start_join (filled : base ≠ "") (here : Location) :
    start here (Path.join base path) = start here base := by
  have first : (Path.join base path).toList.head? = base.toList.head? := by
    rw [text]
    obtain ends | ends := ends
    · obtain ⟨c, rest, spelled⟩ := List.exists_cons_of_ne_nil
        (fun none => filled (String.toList_eq_nil_iff.mp none))
      rw [← ends, spelled]
      rfl
    · rw [ends]
      cases front <;> rfl
  rw [start_eq, start_eq, first]

/-- A joined path goes through the directory, but for an empty piece at the end of that. -/
theorem pieces_join :
    ∃ parts blanks, (∀ piece ∈ blanks, IsBlank piece) ∧ pieces base = parts ++ blanks ∧
      pieces (Path.join base path) = parts ++ pieces path := by
  have joined : pieces (Path.join base path) =
      (Path.split front).map String.ofList ++ pieces path := by
    rw [pieces, text, Path.split_append, List.map_append]
    rfl
  obtain ends | ends := ends
  · exact ⟨_, [], nofun, by rw [pieces, ends, List.append_nil], joined⟩
  · refine ⟨_, [""], fun _ last => .inl (List.mem_singleton.mp last), ?_, joined⟩
    rw [pieces, ends, Path.split_append, List.map_append]
    rfl

end Join

end Walk

namespace FileSystem

variable {files : FileSystem} {path : String}

/-- Writing puts a file to where the path leads, unless that is the device. -/
theorem write_cases {content : Content} {after : FileSystem}
    (written : files.write path content = .ok after) :
    ∃ location, files.place? path = some location ∧
      (files.top.get? location = some .device ∧ after = files ∨
        files.top.FileOrFree location ∧ ∃ executable,
          after = { files with top := files.top.set location (.file content executable) }) := by
  unfold write at written
  cases located : files.locate .create path with
  | error cause => rw [located] at written; cases written
  | ok spot =>
      rw [located] at written
      obtain ⟨led, atPlace⟩ := place?_of_locate (locate_use_of_create located)
      refine ⟨spot.location, led, ?_⟩
      cases spot with
      | free location =>
          cases written
          exact .inr ⟨.inl atPlace, false, rfl⟩
      | found location node =>
          cases node with
          | file old executable =>
              cases written
              exact .inr ⟨.inr ⟨old, executable, atPlace⟩, executable, rfl⟩
          | device =>
              cases written
              exact .inl ⟨atPlace, rfl⟩
          | _ => cases written

/-- A write changes one file at most. -/
theorem content?_write {content : Content} {after : FileSystem}
    (written : files.write path content = .ok after) :
    ∃ location, (∀ other, other ≠ location →
        after.top.content? other = files.top.content? other) ∧
      (after.top.content? location = some content ∨
        after.top.content? location = files.top.content? location) := by
  obtain ⟨location, -, ⟨-, rfl⟩ | ⟨place, executable, rfl⟩⟩ := write_cases written
  · exact ⟨location, fun _ _ => rfl, .inr rfl⟩
  · refine ⟨location, fun other differs => Node.content?_set place.bare differs, ?_⟩
    simp only [Node.content?]
    obtain new | same := files.top.get?_set_self (.file content executable) location
    · rw [new]
      exact .inl rfl
    · rw [same]
      exact .inr rfl

/-- A path below a directory leads to a directory or to a name in one. -/
theorem regular_of_join {base : String} (directory : files.isDirectory base = true)
    {location : Location} (led : files.place? (Path.join base path) = some location) :
    Walk.Regular files.top location := by
  obtain ⟨folder, toFolder, hasDirectory⟩ := isDirectory_iff.mp directory
  unfold place? at toFolder led
  split_ifs at toFolder led with improper
  obtain ⟨alone, absolute | empty⟩ | ⟨filled, front, ends, text⟩ := Path.join_cases base path
  · -- An absolute path starts at the top, which is a directory since there is one below it.
    rw [alone, Walk.start_eq, if_pos absolute] at led
    exact Walk.place?_regular hasDirectory.root led
  · subst empty
    exact absurd rfl improper
  · obtain ⟨parts, blanks, blank, base, joined⟩ := Walk.pieces_join ends text
    rw [base] at toFolder
    rw [joined, Walk.start_join ends text filled] at led
    obtain ⟨left, onward⟩ := Walk.place?_append blank hasDirectory toFolder
    rw [onward] at led
    exact Walk.place?_regular hasDirectory led

/-- A file in a slot moves no path. -/
theorem place?_set {location : Location} (slot : files.top.Slot location) (content : Content)
    (executable : Bool) (path : String) :
    { files with top := files.top.set location (.file content executable) }.place? path =
      files.place? path := by
  have alike : Walk.Alike location files.top
      (files.top.set location (.file content executable)) :=
    ⟨fun _ => slot.sameKind_set (Node.get?_file _ _), slot.fileOrFree,
      .inr ⟨_, _, slot.get?_set _⟩⟩
  rw [place?, place?, Walk.place?_congr alike.move_eq]

/-- Files may change at the touched locations, and no path leads elsewhere than before. -/
structure Alters (touched : Location → Prop) (files after : FileSystem) : Prop where
  places : ∀ path, after.place? path = files.place? path
  elsewhere : ∀ location, ¬ touched location →
    Node.SameKind (files.top.get? location) (after.top.get? location)
  directories : ∀ location, files.top.HasDirectory location → after.top.HasDirectory location

/-- A path leads to a file that holds a text, or to the device, which forgets it. -/
def Keeps (files : FileSystem) (path text : String) : Prop :=
  ∃ location, files.place? path = some location ∧
    (files.top.content? location = some (.text text) ∨ files.top.get? location = some .device)

/-- A text stays if its path still leads there and nothing else is there. -/
theorem Keeps.of_same {text : String} {after : FileSystem} (kept : files.Keeps path text)
    (places : after.place? path = files.place? path)
    (same : ∀ location, files.place? path = some location →
      Node.SameKind (files.top.get? location) (after.top.get? location)) :
    after.Keeps path text := by
  obtain ⟨location, led, held⟩ := kept
  refine ⟨location, places.trans led, ?_⟩
  rw [(same location led).content?_eq]
  refine held.imp_right fun device => ?_
  obtain same | ⟨_, _, before, -⟩ := same location led
  · exact same ▸ device
  · rw [before] at device
    cases device

namespace Alters

variable {touched others : Location → Prop} {after last : FileSystem}

theorem refl (touched : Location → Prop) (files : FileSystem) : files.Alters touched files :=
  ⟨fun _ => rfl, fun _ _ => .inl rfl, fun _ directory => directory⟩

theorem trans (former : files.Alters touched after) (latter : after.Alters others last) :
    files.Alters (fun location => touched location ∨ others location) last where
  places path := (latter.places path).trans (former.places path)
  elsewhere location untouched :=
    (former.elsewhere location fun here => untouched (.inl here)).trans
      (latter.elsewhere location fun here => untouched (.inr here))
  directories location directory :=
    latter.directories location (former.directories location directory)

theorem mono (alters : files.Alters touched after)
    (wider : ∀ location, touched location → others location) : files.Alters others after :=
  ⟨alters.places, fun location untouched =>
    alters.elsewhere location fun here => untouched (wider location here), alters.directories⟩

theorem content?_eq (alters : files.Alters touched after) {location : Location}
    (untouched : ¬ touched location) :
    after.top.content? location = files.top.content? location :=
  (alters.elsewhere location untouched).content?_eq

theorem isDirectory (alters : files.Alters touched after)
    (directory : files.isDirectory path = true) : after.isDirectory path = true := by
  obtain ⟨location, led, hasDirectory⟩ := isDirectory_iff.mp directory
  exact isDirectory_iff.mpr
    ⟨location, (alters.places path).trans led, alters.directories location hasDirectory⟩

/-- Paths to other places read the same texts. -/
theorem readText_iff (alters : files.Alters touched after)
    (untouched : ∀ location, files.place? path = some location → ¬ touched location)
    {text : String} : after.readText path = .ok text ↔ files.readText path = .ok text := by
  rw [readText_eq_ok_iff, readText_eq_ok_iff, alters.places]
  refine exists_congr fun location => and_congr_right fun led => ?_
  obtain same | ⟨_, _, before, after⟩ := alters.elsewhere location (untouched location led)
  · rw [same]
  · rw [before, after]
    rfl

theorem keeps (alters : files.Alters touched after)
    (untouched : ∀ location, files.place? path = some location → ¬ touched location)
    {text : String} (kept : files.Keeps path text) : after.Keeps path text :=
  kept.of_same (alters.places path) fun location led =>
    alters.elsewhere location (untouched location led)

end Alters

/-- Writing below a directory alters the place that the path leads to, which keeps the text. -/
theorem alters_of_write {base text : String} {after : FileSystem}
    (directory : files.isDirectory base = true)
    (written : files.write (Path.join base path) (.text text) = .ok after) :
    files.Alters (fun location => files.place? (Path.join base path) = some location) after ∧
      after.Keeps (Path.join base path) text := by
  obtain ⟨location, led, ⟨device, rfl⟩ | ⟨free, executable, rfl⟩⟩ := write_cases written
  · exact ⟨.refl _ _, location, led, .inr device⟩
  · have noDirectory := free.not_hasDirectory
    have slot : files.top.Slot location :=
      ⟨(regular_of_join directory led).resolve_left noDirectory, free⟩
    have elsewhere : ∀ other, other ≠ location → Node.SameKind (files.top.get? other)
        ((files.top.set location (.file (.text text) executable)).get? other) :=
      fun _ => slot.sameKind_set (Node.get?_file _ _)
    refine ⟨⟨place?_set slot _ _, fun other untouched => ?_, fun other here => ?_⟩,
      location, ?_, ?_⟩
    · exact elsewhere other fun same => untouched (same ▸ led)
    · have differs : other ≠ location := fun same => noDirectory (same ▸ here)
      exact (elsewhere other differs).hasDirectory here
    · exact (place?_set slot _ _ _).trans led
    · exact .inl (by rw [Node.content?, slot.get?_set])

end FileSystem

end PapyrusWriter
