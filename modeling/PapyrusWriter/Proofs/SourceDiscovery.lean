import PapyrusWriter.Command.Build
import PapyrusWriter.Host.World
import PapyrusWriter.Proofs.TreeOrder
/-!
# Which sources are found

The sources of a project are the files below its directory that a pattern accepts. In an ordered
tree they are found completely, each of them once, and in the lexicographic order of the names that
lead to them (`Build.discover_exact`). This is not the order of their paths: `a/b` comes before
`a.psc`, although `.` comes before `/`. How a pattern accepts a name plays no part in it.

The path of a file is the root's text and the names that lead to the file (`Build.pathBelow_eq`). So
different files have different paths (`Build.pathBelow_inj`), and each path leads to its file
(`Build.find_pathBelow`).
-/

namespace PapyrusWriter

set_option autoImplicit false

namespace Text

theorem replaceFrom_singleton (old new : Char) (text : List Char) :
    replaceFrom [old] [new] 0 text = text.map fun c => if c = old then new else c := by
  induction text with
  | nil => rfl
  | cons c rest ih =>
      rw [replaceFrom, List.map_cons]
      by_cases same : c = old
      · simp [same, ih]
      · simp [same, Ne.symm same, ih]

end Text

namespace Path

/-- What stands between a text and what is joined to it. -/
def separatorAfter (base : String) : String :=
  if base.toList.getLast? = some '/' then "" else "/"

theorem join_eq {base path : String} (filled : base ≠ "")
    (relative : path.toList.head? ≠ some '/') :
    join base path = base ++ separatorAfter base ++ path := by
  unfold join separatorAfter
  split
  · rename_i absolute
    rw [absolute] at relative
    exact absurd rfl relative
  · split
    · rename_i last
      rw [List.getLast?_eq_none_iff, String.toList_eq_nil_iff] at last
      exact absurd last filled
    · rename_i last
      rw [if_pos last, String.append_empty]
    · rename_i separated last
      have different : base.toList.getLast? ≠ some '/' := by
        intro same
        rw [last, Option.some.injEq] at same
        exact separated same
      rw [if_neg different]

theorem join_ne_empty {base path : String} (filled : base ≠ "")
    (relative : path.toList.head? ≠ some '/') : join base path ≠ "" := by
  rw [join_eq filled relative, String.append_assoc]
  exact fun empty => filled (String.append_eq_empty_iff.mp empty).1

end Path

namespace Walk

instance : DecidablePred IsName := fun name =>
  decidable_of_iff
    (¬ (name = "" ∨ name = ".") ∧ name ≠ ".." ∧ name.utf8ByteSize ≤ nameLimit ∧
      '/' ∉ name.toList ∧ '\x00' ∉ name.toList)
    ⟨fun ⟨named, below, short, whole, nulless⟩ => ⟨named, below, short, whole, nulless⟩,
      fun ⟨named, below, short, whole, nulless⟩ => ⟨named, below, short, whole, nulless⟩⟩

variable {name : String} (isName : IsName name)

include isName

theorem IsName.relative : name.toList.head? ≠ some '/' := fun absolute =>
  isName.whole (List.mem_of_head? absolute)

/-- After a name comes a separator. -/
theorem IsName.separatorAfter (front : String) : Path.separatorAfter (front ++ name) = "/" := by
  have filled : name.toList ≠ [] := fun empty =>
    isName.named (.inl (String.toList_eq_nil_iff.mp empty))
  have last : (front ++ name).toList.getLast? = name.toList.getLast? := by
    rw [String.toList_append, List.getLast?_append_of_ne_nil _ filled]
  have different : name.toList.getLast? ≠ some '/' := fun separator =>
    isName.whole (List.mem_of_getLast? separator)
  rw [Path.separatorAfter, last, if_neg different]

theorem pieces_intercalate {rest : List String} (names : ∀ other ∈ rest, IsName other) :
    pieces ("/".intercalate (name :: rest)) = name :: rest := by
  induction rest generalizing name with
  | nil => rw [String.intercalate_singleton, isName.pieces]
  | cons next rest ih =>
      obtain ⟨isNext, others⟩ := List.forall_mem_cons.mp names
      have spelled : ("/".intercalate (name :: next :: rest)).toList =
          name.toList ++ '/' :: ("/".intercalate (next :: rest)).toList := by
        rw [String.intercalate_cons_cons, String.toList_append, String.toList_append,
          List.append_assoc]
        rfl
      have later := ih isNext others
      rw [pieces] at later
      rw [pieces, spelled, Path.split_append, List.map_append, later,
        Path.split_of_notMem isName.whole, List.map_singleton, String.ofList_toList,
        List.singleton_append]

end Walk

namespace Build

open Walk

/-- A location as patterns see it: the names with `/` between them, and `/` for each backslash. -/
def slashed (location : Location) : String :=
  String.ofList (("/".intercalate location).toList.map fun c => if c = '\\' then '/' else c)

theorem relativePath_eq (location : Location) : relativePath location = slashed location :=
  congrArg String.ofList (Text.replaceFrom_singleton '\\' '/' _)

section Paths

variable {root : String} (filled : root ≠ "")

include filled

theorem pathBelow_eq {name : String} {rest : Location}
    (names : ∀ other ∈ name :: rest, IsName other) :
    pathBelow root (name :: rest) =
      root ++ Path.separatorAfter root ++ "/".intercalate (name :: rest) := by
  obtain ⟨isName, others⟩ := List.forall_mem_cons.mp names
  have joined := Path.join_eq filled isName.relative
  induction rest generalizing root name with
  | nil =>
      rw [String.intercalate_singleton]
      exact joined
  | cons next rest ih =>
      have inside := Path.join_ne_empty filled isName.relative
      obtain ⟨isNext, later⟩ := List.forall_mem_cons.mp others
      show pathBelow (Path.join root name) (next :: rest) = _
      rw [ih inside others isNext later (Path.join_eq inside isNext.relative), joined,
        isName.separatorAfter, String.intercalate_cons_cons]
      simp only [String.append_assoc]

theorem pathBelow_inj {location other : Location} (names : ∀ name ∈ location, IsName name)
    (keys : ∀ key ∈ other, IsName key) (below : location ≠ []) (deeper : other ≠ [])
    (same : pathBelow root location = pathBelow root other) : location = other := by
  obtain ⟨name, rest, rfl⟩ := List.exists_cons_of_ne_nil below
  obtain ⟨key, others, rfl⟩ := List.exists_cons_of_ne_nil deeper
  rw [pathBelow_eq filled names, pathBelow_eq filled keys, String.append_right_inj] at same
  obtain ⟨isName, later⟩ := List.forall_mem_cons.mp names
  obtain ⟨isKey, further⟩ := List.forall_mem_cons.mp keys
  rw [← pieces_intercalate isName later, same, pieces_intercalate isKey further]

theorem utf8ByteSize_le_pathBelow {location : Location} (names : ∀ name ∈ location, IsName name) :
    root.utf8ByteSize ≤ (pathBelow root location).utf8ByteSize := by
  cases location with
  | nil => exact Nat.le_refl _
  | cons name rest =>
      rw [pathBelow_eq filled names, String.utf8ByteSize_append, String.utf8ByteSize_append]
      omega

end Paths

theorem ne_empty_of_find {files : FileSystem} {path : String} {place : Location} {node : Node}
    (found : files.find path = .ok (place, node)) : path ≠ "" := by
  rintro rfl
  cases found

/-- The path of a node below a directory leads to that node, if it is not too long. -/
theorem find_pathBelow {files : FileSystem} {root : String} {folder location : Location}
    {node inner : Node} (found : files.find root = .ok (folder, node))
    (inside : node.get? location = some inner) (unlinked : ∀ target, inner ≠ .link target)
    (names : ∀ name ∈ location, IsName name)
    (short : (pathBelow root location).utf8ByteSize ≤ pathLimit) :
    files.find (pathBelow root location) = .ok (folder ++ location, inner) := by
  induction location generalizing root folder node with
  | nil =>
      rw [Node.get?_nil, Option.some.injEq] at inside
      rw [List.append_nil, ← inside]
      exact found
  | cons name rest ih =>
      obtain ⟨isName, others⟩ := List.forall_mem_cons.mp names
      obtain ⟨toFolder, atFolder⟩ := FileSystem.find_eq_ok_iff.mp found
      cases node with
      | directory entries =>
          obtain ⟨child, listed, below⟩ := Option.bind_eq_some_iff.mp inside
          have atName : files.top.get? (folder ++ [name]) = some child := by
            rw [Node.get?_append, atFolder, Option.bind_some, Node.get?, listed, Option.bind_some,
              Node.get?_nil]
          have unfollowed : ∀ target, files.top.get? (folder ++ [name]) ≠ some (.link target) := by
            rintro target linked
            rw [atName, Option.some.injEq] at linked
            subst linked
            cases rest with
            | nil => exact unlinked target (Option.some.inj below).symm
            | cons next deeper => cases below
          have filled := Path.join_ne_empty (ne_empty_of_find found) isName.relative
          have fits := Nat.le_trans (utf8ByteSize_le_pathBelow filled others) short
          have located := FileSystem.locate_join_name toFolder ⟨entries, atFolder⟩ isName .use fits
            (.inr unfollowed)
          rw [atName] at located
          have onward : files.find (Path.join root name) = .ok (folder ++ [name], child) := by
            rw [FileSystem.find, located]
            rfl
          have led := ih onward below others short
          rwa [List.append_assoc] at led
      | _ => cases inside

theorem run_discoverBy {world : World} {root : String} {place : Location} {node : Node}
    (found : world.files.find root = .ok (place, node)) (accepts : String → Bool) :
    (discoverBy root accepts).run world =
      ((world.access (.filesBelow root) (.ok
        ((node.files.filter fun location => accepts (relativePath location)).map
          (pathBelow root)))).mapError .sourceScan, world) := by
  have listed : world.files.filesBelow root = .ok node.files := by
    rw [FileSystem.filesBelow, found]
  show ((Routine.orFail _ (world.filesBelow root) >>= _).run _) = _
  rw [Storage.filesBelow, listed, Storage.access, Storage.access]
  cases world.refusals world.files (.filesBelow root) <;> rfl

theorem discover_eq {pattern : String} {glob : Glob} (valid : Glob.parse pattern = .ok glob)
    (root : String) : discover root pattern = discoverBy root glob.accepts := by
  rw [discover, valid]

/-- A pattern is one way to accept names. Whatever accepts them, in an ordered directory exactly the
files are found whose names, with `/` between them and for each backslash, are accepted. They are
found in the order of their names, no path is given twice, and each path leads to its file unless it
is too long. Only a host that refuses to list the files hinders that. -/
theorem discover_exact {world : World} {root : String} {place : Location}
    {entries : List (String × Node)}
    (found : world.files.find root = .ok (place, .directory entries))
    (ordered : (Node.directory entries).Ordered) :
    (∀ pattern glob, Glob.parse pattern = .ok glob →
      discover root pattern = discoverBy root glob.accepts) ∧
    ∀ accepts : String → Bool, ∃ locations : List Location,
      (discoverBy root accepts).run world =
        ((world.access (.filesBelow root) (.ok (locations.map (pathBelow root)))).mapError
          .sourceScan, world) ∧
      (∀ location, location ∈ locations ↔
        (Node.directory entries).HasFile location ∧ accepts (slashed location) = true) ∧
      locations.Pairwise (List.Lex Text.ByteBefore) ∧
      (locations.map (pathBelow root)).Nodup ∧
      ∀ location ∈ locations, (pathBelow root location).utf8ByteSize ≤ pathLimit →
        ∃ content executable, world.files.find (pathBelow root location) =
          .ok (place ++ location, .file content executable) := by
  refine ⟨fun pattern glob valid => discover_eq valid root, fun accepts => ?_⟩
  let locations := (Node.directory entries).files.filter fun location =>
    accepts (relativePath location)
  have members : ∀ location, location ∈ locations ↔
      (Node.directory entries).HasFile location ∧ accepts (slashed location) = true := by
    intro location
    rw [List.mem_filter, Node.mem_files ordered, relativePath_eq]
  have increasing : locations.Pairwise (List.Lex Text.ByteBefore) :=
    (Node.pairwise_files ordered).sublist List.filter_sublist
  have below : ∀ location ∈ locations, location ≠ [] := fun location among =>
    ((members location).mp among).1.ne_nil
  have names : ∀ location ∈ locations, ∀ name ∈ location, IsName name := by
    intro location among
    obtain ⟨⟨_, _, inside⟩, -⟩ := (members location).mp among
    exact ordered.isName inside
  refine ⟨locations, run_discoverBy found accepts, members, increasing, ?_, ?_⟩
  · -- Equal paths would be those of one location, which does not come before itself.
    rw [List.Nodup, List.pairwise_map]
    refine increasing.imp_of_mem fun {location other} among later less same => ?_
    have equal := pathBelow_inj (ne_empty_of_find found) (names location among)
      (names other later) (below location among) (below other later) same
    subst equal
    exact List.lex_irrefl Text.not_byteBefore_self location less
  · intro location among short
    obtain ⟨⟨content, executable, inside⟩, -⟩ := (members location).mp among
    refine ⟨content, executable, find_pathBelow found inside ?_ (names location among) short⟩
    intro target linked
    cases linked

/-- A project with a file whose name goes on after a directory's name, and with a link. -/
def sampleEntries : List (String × Node) :=
  [("a", .directory [("\\.json", .file (.text "") false)]), ("a.json", .file (.text "") false),
    ("b.json", .link "a.json")]

def sampleWorld : World where
  files := ⟨.directory [("home", .directory sampleEntries)], ["home"]⟩
  programs _ _ _ := .error .notFound

/-- What `**/*.json` stands for. -/
def sampleGlob : Glob :=
  ⟨[.anyDirectories, .anyRun, .literal '.', .literal 'j', .literal 's', .literal 'o', .literal 'n']⟩

theorem ordered_sampleEntries : (Node.directory sampleEntries).Ordered := by
  have built : Node.directory sampleEntries =
      (((Node.directory []).set ["b.json"] (.link "a.json")).set ["a.json"]
        (.file (.text "") false)).set ["a", "\\.json"] (.file (.text "") false) := rfl
  have names : ∀ name ∈ ["a", "a.json", "b.json", "\\.json"], IsName name := by decide
  rw [built]
  refine Node.Ordered.set (Node.Ordered.set (Node.Ordered.set .empty ?_ (.leaf rfl)) ?_
    (.leaf rfl)) ?_ (.leaf rfl) <;> intro name among <;> exact names name (by grind)

theorem discover_exact_sample :
    ∃ locations : List Location,
      (discover "." "**/*.json").run sampleWorld =
        (.ok (locations.map (pathBelow ".")), sampleWorld) ∧
      (∀ location, location ∈ locations ↔ (Node.directory sampleEntries).HasFile location ∧
        sampleGlob.accepts (slashed location) = true) ∧
      locations.Pairwise (List.Lex Text.ByteBefore) ∧
      (locations.map (pathBelow ".")).Nodup ∧
      ∀ location ∈ locations, (pathBelow "." location).utf8ByteSize ≤ pathLimit →
        ∃ content executable, sampleWorld.files.find (pathBelow "." location) =
          .ok (["home"] ++ location, .file content executable) := by
  have listed : sampleWorld.files.find "." = .ok (["home"], .directory sampleEntries) := rfl
  obtain ⟨same, exactly⟩ := discover_exact listed ordered_sampleEntries
  rw [same "**/*.json" sampleGlob rfl]
  exact exactly sampleGlob.accepts

example : (discover "." "**/*.json").run sampleWorld =
    (.ok ["./a/\\.json", "./a.json"], sampleWorld) := rfl

end Build

end PapyrusWriter
