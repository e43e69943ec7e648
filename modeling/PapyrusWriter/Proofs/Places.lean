import PapyrusWriter.Host.FileSystem
import PapyrusWriter.Proofs.FileTree
/-!
# Where paths lead

`place?` is the location that a path leads to, whether or not something is there. It depends on the
kinds of nodes and not on what files hold (`Alike.move_eq`, `place?_congr`). What a path finds is
what is at its place (`find_eq_ok_iff`).

From a directory a path leads to a directory or to a name in one (`place?_regular`), and a path that
goes on after a directory leads to where its rest leads from there (`place?_append`).
-/

namespace PapyrusWriter

set_option autoImplicit false

namespace Spot

def location : Spot → Location
  | .found location _ => location
  | .free location => location

def node? : Spot → Option Node
  | .found _ node => some node
  | .free _ => none

end Spot

namespace Walk

/-- What one piece of a path does. -/
inductive Move where
  | goTo (next : Location)
  | follow (next : Location) (target : List String)
  /-- To something that is no directory, or to a free name. -/
  | leaf (location : Location)
  | refuse

def move (top : Node) (here : Location) (piece : String) : Move :=
  if piece = "" || piece = "." then .goTo here
  else if piece = ".." then .goTo here.dropLast
  else if nameLimit < piece.utf8ByteSize then .refuse
  else
    match top.get? (here ++ [piece]) with
    | some (.directory _) => .goTo (here ++ [piece])
    | some (.link target) => .follow (start here target) (pieces target)
    | _ => .leaf (here ++ [piece])

/-- Where pieces lead from a directory, where links are left to `follow`. -/
def placeWith (top : Node) (follow : Location → List String → Option Location) :
    Location → List String → Option Location
  | here, [] => some here
  | here, piece :: rest =>
      match move top here piece with
      | .goTo next => placeWith top follow next rest
      | .follow next target => follow next (target ++ rest)
      | .leaf location => if rest = [] then some location else none
      | .refuse => none

/-- Where pieces lead from a directory with a bound on the links. -/
def place? (top : Node) : Nat → Location → List String → Option Location
  | 0 => placeWith top fun _ _ => none
  | links + 1 => placeWith top (place? top links)

/-- Why a piece does what it does. -/
inductive Reason (top : Node) (here : Location) (piece : String) : Move → Prop
  | stay (trivial : piece = "" ∨ piece = ".") : Reason top here piece (.goTo here)
  | up (parent : piece = "..") : Reason top here piece (.goTo here.dropLast)
  | refuse : Reason top here piece .refuse
  | enter (entries : List (String × Node))
      (found : top.get? (here ++ [piece]) = some (.directory entries)) :
      Reason top here piece (.goTo (here ++ [piece]))
  | link (target : String) (found : top.get? (here ++ [piece]) = some (.link target)) :
      Reason top here piece (.follow (start here target) (pieces target))
  | leaf (found : ∀ entries, top.get? (here ++ [piece]) ≠ some (.directory entries)) :
      Reason top here piece (.leaf (here ++ [piece]))

theorem reason_move (top : Node) (here : Location) (piece : String) :
    Reason top here piece (move top here piece) := by
  unfold move
  split_ifs with trivial up long
  · rw [Bool.or_eq_true, decide_eq_true_eq, decide_eq_true_eq] at trivial
    exact .stay trivial
  · exact .up up
  · exact .refuse
  · cases found : top.get? (here ++ [piece]) with
    | none => exact .leaf fun entries => by rw [found]; nofun
    | some node =>
        cases node with
        | directory entries => exact .enter entries found
        | link target => exact .link target found
        | _ => exact .leaf fun entries => by rw [found]; nofun

section Use

variable {top : Node} {follow : Location → List String → Except SystemError Spot}
  {here : Location} {piece : String} {rest : List String}

theorem alongWith_goTo {next : Location} (moved : move top here piece = .goTo next) :
    alongWith top .use follow here (piece :: rest) = alongWith top .use follow next rest := by
  grind [alongWith, move]

theorem alongWith_follow {next : Location} {target : List String}
    (moved : move top here piece = .follow next target) :
    alongWith top .use follow here (piece :: rest) = follow next (target ++ rest) := by
  grind [alongWith, move]

theorem alongWith_leaf {location : Location} (moved : move top here piece = .leaf location) :
    alongWith top .use follow here (piece :: rest) =
      if rest = [] then .ok ((top.get? location).elim (.free location) (.found location))
      else .error (if (top.get? location).isSome then .notDirectory else .notFound) := by
  grind [alongWith, move]

theorem alongWith_refuse (moved : move top here piece = .refuse) :
    alongWith top .use follow here (piece :: rest) = .error .nameTooLong := by
  grind [alongWith, move]

/-- Creating is using, but for paths that end in a separator. -/
theorem alongWith_use_of_create {create : Location → List String → Except SystemError Spot}
    {spot : Spot}
    (followed : ∀ next path, create next path = .ok spot → follow next path = .ok spot)
    {path : List String} (walked : alongWith top .create create here path = .ok spot) :
    alongWith top .use follow here path = .ok spot := by
  induction path generalizing here with
  | nil => exact walked
  | cons piece rest ih => grind [alongWith]

/-- A walk ends at the place that the pieces lead to, and tells what is there. -/
theorem placeWith_of_alongWith {place : Location → List String → Option Location}
    {spot : Spot}
    (followed : ∀ next path, follow next path = .ok spot →
      place next path = some spot.location ∧ top.get? spot.location = spot.node?)
    {path : List String} (walked : alongWith top .use follow here path = .ok spot) :
    placeWith top place here path = some spot.location ∧
      top.get? spot.location = spot.node? := by
  induction path generalizing here with
  | nil =>
      rw [alongWith] at walked
      cases found : top.get? here with
      | none => rw [found] at walked; cases walked
      | some node => rw [found] at walked; cases walked; exact ⟨rfl, found⟩
  | cons piece rest ih =>
      rw [placeWith]
      cases moved : move top here piece with
      | goTo next => exact ih (alongWith_goTo moved ▸ walked)
      | follow next target =>
          rw [alongWith_follow moved] at walked
          exact followed _ _ walked
      | refuse =>
          rw [alongWith_refuse moved] at walked
          cases walked
      | leaf location =>
          rw [alongWith_leaf moved] at walked
          split_ifs at walked with last
          cases walked
          cases found : top.get? location with
          | none => exact ⟨if_pos last, found⟩
          | some node => exact ⟨if_pos last, found⟩

theorem alongWith_of_placeWith {place : Location → List String → Option Location}
    {location : Location} {node : Node} (found : top.get? location = some node)
    (followed : ∀ next path, place next path = some location →
      follow next path = .ok (.found location node))
    {path : List String} (led : placeWith top place here path = some location) :
    alongWith top .use follow here path = .ok (.found location node) := by
  induction path generalizing here with
  | nil =>
      cases led
      rw [alongWith, found]
  | cons piece rest ih =>
      rw [placeWith] at led
      cases moved : move top here piece with
      | goTo next =>
          rw [moved] at led
          rw [alongWith_goTo moved]
          exact ih led
      | follow next target =>
          rw [moved] at led
          rw [alongWith_follow moved]
          exact followed _ _ led
      | refuse => rw [moved] at led; cases led
      | leaf last =>
          rw [moved] at led
          simp only at led
          split_ifs at led with ended
          cases led
          rw [alongWith_leaf moved, if_pos ended, found]
          rfl

end Use

theorem along_use_of_create {top : Node} {links : Nat} {here : Location} {path : List String}
    {spot : Spot} (walked : along top .create links here path = .ok spot) :
    along top .use links here path = .ok spot := by
  induction links generalizing here path with
  | zero => exact alongWith_use_of_create (fun _ _ refused => refused) walked
  | succ links ih => exact alongWith_use_of_create (fun _ _ => ih) walked

theorem place?_of_along {top : Node} {links : Nat} {here : Location} {path : List String}
    {spot : Spot} (walked : along top .use links here path = .ok spot) :
    place? top links here path = some spot.location ∧ top.get? spot.location = spot.node? := by
  induction links generalizing here path with
  | zero =>
      refine placeWith_of_alongWith ?_ walked
      intro _ _ refused
      cases refused
  | succ links ih => exact placeWith_of_alongWith (fun _ _ => ih) walked

theorem along_of_place? {top : Node} {links : Nat} {here : Location} {path : List String}
    {location : Location} {node : Node} (found : top.get? location = some node)
    (led : place? top links here path = some location) :
    along top .use links here path = .ok (.found location node) := by
  induction links generalizing here path with
  | zero =>
      refine alongWith_of_placeWith found ?_ led
      intro _ _ refused
      cases refused
  | succ links ih => exact alongWith_of_placeWith found (fun _ _ => ih) led

/-- A move depends on the kind of node that it leads to. -/
theorem move_congr {top other : Node} {here : Location} {piece : String}
    (same : Node.SameKind (top.get? (here ++ [piece])) (other.get? (here ++ [piece]))) :
    move top here piece = move other here piece := by
  unfold move
  obtain same | ⟨_, _, before, after⟩ := same
  · rw [same]
  · rw [before, after]

/-- The two trees differ in the directories' entries and in what one slot has. -/
structure Alike (slot : Location) (top other : Node) : Prop where
  elsewhere : ∀ location, location ≠ slot →
    Node.SameKind (top.get? location) (other.get? location)
  before : top.FileOrFree slot
  after : other.FileOrFree slot

theorem Alike.move_eq {slot : Location} {top other : Node} (alike : Alike slot top other)
    (here : Location) (piece : String) : move top here piece = move other here piece := by
  by_cases atSlot : here ++ [piece] = slot
  · -- Nothing and a file are both the end of a path.
    unfold move
    rw [atSlot]
    obtain before | ⟨_, _, before⟩ := alike.before <;>
      obtain after | ⟨_, _, after⟩ := alike.after <;>
      rw [before, after]
  · exact move_congr (alike.elsewhere _ atSlot)

/-- Trees in which every move is the same have the same places. -/
theorem place?_congr {top other : Node}
    (same : ∀ here piece, move top here piece = move other here piece) (links : Nat) :
    place? top links = place? other links := by
  have step : ∀ follow here path,
      placeWith top follow here path = placeWith other follow here path := by
    intro follow here path
    induction path generalizing here with
    | nil => rfl
    | cons piece rest ih =>
        rw [placeWith, placeWith, same]
        cases move other here piece with
        | goTo next => exact ih next
        | _ => rfl
  induction links with
  | zero => exact funext fun here => funext (step _ here)
  | succ links ih =>
      rw [place?, place?, ih]
      exact funext fun here => funext (step _ here)

/-- A piece that leads nowhere. -/
def IsBlank (piece : String) : Prop := piece = "" ∨ piece = "."

theorem move_blank {piece : String} (blank : IsBlank piece) (top : Node) (here : Location) :
    move top here piece = .goTo here := by
  rcases blank with rfl | rfl <;> rfl

theorem placeWith_blanks {top : Node} {place : Location → List String → Option Location}
    {here : Location} {blanks : List String} (blank : ∀ piece ∈ blanks, IsBlank piece) :
    placeWith top place here blanks = some here := by
  induction blanks with
  | nil => rfl
  | cons piece rest ih =>
      obtain ⟨first, others⟩ := List.forall_mem_cons.mp blank
      rw [placeWith, move_blank first]
      exact ih others

theorem placeWith_append {top : Node} {place : Location → List String → Option Location}
    {location : Location} {blanks : List String} (blank : ∀ piece ∈ blanks, IsBlank piece)
    (directory : top.HasDirectory location)
    (stayed : ∃ left, placeWith top place = place? top left)
    (followed : ∀ next path, place next (path ++ blanks) = some location →
      ∃ left, ∀ back, place next (path ++ back) = place? top left location back)
    {here : Location} {front : List String}
    (led : placeWith top place here (front ++ blanks) = some location) :
    ∃ left, ∀ back, placeWith top place here (front ++ back) = place? top left location back := by
  induction front generalizing here with
  | nil =>
      rw [List.nil_append, placeWith_blanks blank, Option.some.injEq] at led
      obtain ⟨left, same⟩ := stayed
      exact ⟨left, fun back => by rw [List.nil_append, same, led]⟩
  | cons piece rest ih =>
      simp only [List.cons_append, placeWith] at led ⊢
      have reason := reason_move top here piece
      cases moved : move top here piece with
      | goTo next =>
          rw [moved] at led
          exact ih led
      | follow next target =>
          simp only [moved, ← List.append_assoc] at led ⊢
          exact followed _ _ led
      | refuse => rw [moved] at led; cases led
      | leaf last =>
          -- A leaf is no directory, so the path would not have led to one.
          rw [moved] at led reason
          obtain ⟨entries, found⟩ := directory
          simp only at led
          split_ifs at led
          cases led
          cases reason with
          | leaf noDirectory => exact absurd found (noDirectory entries)

/-- After a path to a directory the walk goes on from there. Blank pieces at the end of that path do
not matter. -/
theorem place?_append {top : Node} {links : Nat} {here location : Location}
    {front blanks : List String} (blank : ∀ piece ∈ blanks, IsBlank piece)
    (directory : top.HasDirectory location)
    (led : place? top links here (front ++ blanks) = some location) :
    ∃ left, ∀ back, place? top links here (front ++ back) = place? top left location back := by
  induction links generalizing here front with
  | zero =>
      refine placeWith_append blank directory ⟨0, rfl⟩ ?_ led
      intro _ _ refused
      cases refused
  | succ links ih => exact placeWith_append blank directory ⟨links + 1, rfl⟩ (fun _ _ => ih) led

/-- A directory, or a name in one. -/
def Regular (top : Node) (location : Location) : Prop :=
  top.HasDirectory location ∨
    ∃ parent name, location = parent ++ [name] ∧ top.HasDirectory parent

theorem placeWith_regular {top : Node} {place : Location → List String → Option Location}
    {location : Location}
    (followed : ∀ next path, top.HasDirectory next → place next path = some location →
      Regular top location)
    {here : Location} {path : List String} (directory : top.HasDirectory here)
    (led : placeWith top place here path = some location) : Regular top location := by
  induction path generalizing here with
  | nil =>
      cases led
      exact .inl directory
  | cons piece rest ih =>
      rw [placeWith] at led
      have reason := reason_move top here piece
      cases moved : move top here piece with
      | refuse => rw [moved] at led; cases led
      | goTo next =>
          rw [moved] at led reason
          cases reason with
          | stay => exact ih directory led
          | up => exact ih directory.dropLast led
          | enter entries found => exact ih ⟨entries, found⟩ led
      | follow next target =>
          rw [moved] at led reason
          cases reason with
          | link target found =>
              refine followed _ _ ?_ led
              unfold start
              split
              · exact directory.root
              · exact directory
      | leaf last =>
          rw [moved] at led reason
          simp only at led
          split_ifs at led
          cases led
          cases reason with
          | leaf => exact .inr ⟨here, piece, rfl, directory⟩

/-- From a directory, a path leads to a directory or to a name in one. -/
theorem place?_regular {top : Node} {links : Nat} {here location : Location}
    {path : List String} (directory : top.HasDirectory here)
    (led : place? top links here path = some location) : Regular top location := by
  induction links generalizing here path with
  | zero =>
      refine placeWith_regular ?_ directory led
      intro _ _ _ refused
      cases refused
  | succ links ih => exact placeWith_regular (fun _ _ => ih) directory led

end Walk

namespace FileSystem

/-- Where a path leads, whether or not something is there. -/
def place? (files : FileSystem) (path : String) : Option Location :=
  if path.toList.contains '\x00' || path = "" || Walk.pathLimit < path.utf8ByteSize then none
  else Walk.place? files.top Walk.linkLimit (Walk.start files.here path) (Walk.pieces path)

variable {files : FileSystem} {path : String}

theorem short_of_place? {location : Location} (led : files.place? path = some location) :
    path.utf8ByteSize ≤ Walk.pathLimit := by
  unfold place? at led
  split_ifs at led with improper
  simp only [Bool.or_eq_true, decide_eq_true_eq, not_or, Nat.not_lt] at improper
  exact improper.2

theorem locate_use_of_create {spot : Spot} (located : files.locate .create path = .ok spot) :
    files.locate .use path = .ok spot := by
  unfold locate at located ⊢
  split_ifs at located ⊢
  exact Walk.along_use_of_create located

theorem place?_of_locate {spot : Spot} (located : files.locate .use path = .ok spot) :
    files.place? path = some spot.location ∧ files.top.get? spot.location = spot.node? := by
  unfold locate at located
  split_ifs at located with nul empty long
  rw [place?, if_neg (by simp only [nul, empty, long]; decide)]
  exact Walk.place?_of_along located

theorem locate_of_place? {location : Location} {node : Node}
    (led : files.place? path = some location) (found : files.top.get? location = some node) :
    files.locate .use path = .ok (.found location node) := by
  unfold place? at led
  split_ifs at led with proper
  simp only [Bool.or_eq_true, decide_eq_true_eq, not_or] at proper
  rw [locate, if_neg proper.1.1, if_neg proper.1.2, if_neg proper.2]
  exact Walk.along_of_place? found led

theorem find_eq_ok_iff {location : Location} {node : Node} :
    files.find path = .ok (location, node) ↔
      files.place? path = some location ∧ files.top.get? location = some node := by
  constructor
  · intro found
    unfold find at found
    cases located : files.locate .use path with
    | error cause => rw [located] at found; cases found
    | ok spot =>
        rw [located] at found
        cases spot with
        | free location => cases found
        | found location node =>
            cases found
            exact place?_of_locate located
  · rintro ⟨led, found⟩
    rw [find, locate_of_place? led found]

theorem isDirectory_iff :
    files.isDirectory path = true ↔
      ∃ location, files.place? path = some location ∧ files.top.HasDirectory location := by
  constructor
  · intro directory
    unfold isDirectory at directory
    cases found : files.find path with
    | error cause => rw [found] at directory; cases directory
    | ok entry =>
        obtain ⟨location, node⟩ := entry
        rw [found] at directory
        cases node with
        | directory entries =>
            obtain ⟨led, atPlace⟩ := find_eq_ok_iff.mp found
            exact ⟨location, led, entries, atPlace⟩
        | _ => cases directory
  · rintro ⟨location, led, entries, found⟩
    rw [isDirectory, find_eq_ok_iff.mpr ⟨led, found⟩]
    rfl

theorem isDirectory_of_list {names : List String} (listed : files.list path = .ok names) :
    files.isDirectory path = true := by
  unfold list at listed
  unfold isDirectory
  cases found : files.find path with
  | error cause => rw [found] at listed; cases listed
  | ok entry =>
      obtain ⟨location, node⟩ := entry
      rw [found] at listed
      cases node with
      | directory entries => rfl
      | _ => cases listed

theorem exists?_iff :
    files.exists? path = true ↔
      ∃ location node, files.place? path = some location ∧
        files.top.get? location = some node := by
  constructor
  · intro there
    unfold exists? at there
    cases found : files.find path with
    | error cause => rw [found] at there; cases there
    | ok entry => exact ⟨entry.1, entry.2, find_eq_ok_iff.mp found⟩
  · rintro ⟨location, node, led, found⟩
    rw [exists?, find_eq_ok_iff.mpr ⟨led, found⟩]

theorem readText_eq_ok_iff {text : String} :
    files.readText path = .ok text ↔
      ∃ location, files.place? path = some location ∧
        (files.top.get? location).bind Node.text? = some text := by
  constructor
  · intro read
    unfold readText readContent at read
    cases found : files.find path with
    | error cause => rw [found] at read; cases read
    | ok entry =>
        obtain ⟨location, node⟩ := entry
        obtain ⟨led, atPlace⟩ := find_eq_ok_iff.mp found
        rw [found] at read
        refine ⟨location, led, ?_⟩
        rw [atPlace]
        cases node with
        | file content executable => cases content <;> cases read; rfl
        | device => cases read; rfl
        | _ => cases read
  · rintro ⟨location, led, held⟩
    obtain ⟨node, atPlace, text⟩ := Option.bind_eq_some_iff.mp held
    rw [readText, readContent, find_eq_ok_iff.mpr ⟨led, atPlace⟩]
    cases node with
    | file content executable => cases content <;> cases text; rfl
    | device => cases text; rfl
    | _ => cases text

end FileSystem

end PapyrusWriter
