import PapyrusWriter.Command.Source
import PapyrusWriter.Proofs.DirectiveOrder
import PapyrusWriter.Proofs.Outcome
import PapyrusWriter.Proofs.Routines
/-!
# What source files give

`Source.Gives` says what a source file is transpiled to with the files as they are. Reading the
included files first and transpiling with what was read comes to the same (`run_transpile`), since a
script asks for no other file (`SyntaxTree.transpile_congr`). If the host refuses to read one of
them, the run fails; so what a run succeeds with is what the files give (`gives_of_run`).
-/

namespace PapyrusWriter

set_option autoImplicit false

section Readers

variable {read other : FileReader} {root : String}

/-- Directives ask for the files that they include. -/
theorem takeDirectives_congr {directives : List Directive}
    (agree : ∀ path ∈ Source.includePaths root directives, read path = other path)
    (state : Preprocessed) :
    takeDirectives read root directives state = takeDirectives other root directives state := by
  induction directives generalizing state with
  | nil => rfl
  | cons directive rest ih =>
      cases directive with
      | define name value => exact ih agree _
      | includeFile path =>
          obtain ⟨here, later⟩ := List.forall_mem_cons.mp agree
          rw [takeDirectives, takeDirectives, readInclude, readInclude, here]
          exact congrArg _ (funext fun text => ih later _)

theorem SyntaxTree.transpile_congr {options : TranspileOptions} {tree : SyntaxTree}
    (agree : ∀ path ∈ Source.includePaths options.includeRoot tree.directives,
      read path = other path) :
    tree.transpile read options = tree.transpile other options := by
  have same : preprocess read options.includeRoot options.defines tree.directives =
      preprocess other options.includeRoot options.defines tree.directives :=
    takeDirectives_congr agree _
  rw [SyntaxTree.transpile, SyntaxTree.transpile, same]

theorem readable_of_takeDirectives {directives : List Directive} {state final : Preprocessed}
    (taken : (takeDirectives read root directives state).result = .ok final) :
    ∀ path ∈ Source.includePaths root directives, ∃ text, read path = .ok text := by
  induction directives generalizing state with
  | nil => nofun
  | cons directive rest ih =>
      cases directive with
      | define name value => exact ih taken
      | includeFile path =>
          rw [takeDirectives, Logged.result_bind] at taken
          cases known : read (includePath root path) with
          | error cause =>
              rw [readInclude_error known] at taken
              cases taken
          | ok text =>
              rw [readInclude_ok known] at taken
              exact List.forall_mem_cons.mpr ⟨⟨text, known⟩, ih taken⟩

/-- A script that is transpiled could read all that it includes. -/
theorem SyntaxTree.readable_of_transpile {options : TranspileOptions} {tree : SyntaxTree}
    {result : Transpiled} (transpiled : (tree.transpile read options).result = .ok result) :
    ∀ path ∈ Source.includePaths options.includeRoot tree.directives,
      ∃ text, read path = .ok text := by
  rw [SyntaxTree.transpile_result] at transpiled
  generalize given : (preprocess read _ _ _).result = taken at transpiled
  cases parsed : Game.parse options.game with
  | error error => rw [parsed] at transpiled; cases transpiled
  | ok game =>
      rw [parsed] at transpiled
      cases taken with
      | ok state => exact readable_of_takeDirectives given
      | error error => cases transpiled

/-- A script that is transpiled was refused nothing. -/
theorem SyntaxTree.transpile_of_granted {storage : Storage} {options : TranspileOptions}
    {tree : SyntaxTree} {result : Transpiled}
    (transpiled : (tree.transpile storage.readText options).result = .ok result) :
    (tree.transpile storage.files.readText options).result = .ok result := by
  rw [← transpiled]
  refine congrArg _ (SyntaxTree.transpile_congr fun path among => ?_)
  obtain ⟨text, readable⟩ := SyntaxTree.readable_of_transpile transpiled path among
  rw [readable, Storage.of_access readable]

end Readers

namespace Source

theorem passive_load (path : String) : (load path).Passive := by
  refine .bind (.request rfl) fun answer => .bind (.orFail _ _) fun text => ?_
  refine .bind (.forM_report _ _) fun _ => ?_
  split <;> trivial

theorem passive_readAll (paths : List String) : (readAll paths).Passive := by
  induction paths with
  | nil => trivial
  | cons path rest ih => exact .bind (.request rfl) fun _ => .bind ih fun _ => trivial

theorem passive_transpile (options : TranspileOptions) (tree : SyntaxTree) :
    (transpile options tree).Passive :=
  .bind (passive_readAll _) fun _ => .ofLogged _ _

theorem load_eq_ok {path : String} {tree : SyntaxTree} {world after : World}
    (ran : (load path).run world = (.ok tree, after)) :
    ∃ text, world.readText path = .ok text ∧ SyntaxTree.read text = (some tree, []) := by
  obtain ⟨answer, _, asked, opened⟩ := Routine.run_bind_eq_ok ran
  rw [Routine.run_request] at asked
  cases asked
  obtain ⟨text, _, held, parsed⟩ := Routine.run_bind_eq_ok opened
  refine ⟨text, (Routine.run_orFail_eq_ok held).1, ?_⟩
  generalize SyntaxTree.read text = given at parsed ⊢
  obtain ⟨found, diagnostics⟩ := given
  obtain ⟨_, _, -, finished⟩ := Routine.run_bind_eq_ok parsed
  cases found with
  | none => cases finished
  | some found =>
      cases diagnostics with
      | nil => cases finished; rfl
      | cons diagnostic more => cases finished

theorem load_eq_error {path : String} {failure : Failure} {world after : World}
    (ran : (load path).run world = (.error failure, after)) :
    (∃ cause, world.readText path = .error cause ∧ failure = .inputUnreadable cause) ∨
      ∃ text found diagnostics, world.readText path = .ok text ∧
        SyntaxTree.read text = (found, diagnostics) ∧ ¬ (found.isSome ∧ diagnostics = []) ∧
        failure = .syntaxErrors path diagnostics.length
          ((diagnostics.head?.map Diagnostic.message).getD "") := by
  obtain asked | ⟨answer, _, asked, opened⟩ := Routine.run_bind_eq_error ran
  · cases asked
  rw [Routine.run_request] at asked
  cases asked
  obtain held | ⟨text, _, held, parsed⟩ := Routine.run_bind_eq_error opened
  · exact .inl (Routine.run_orFail_eq_error held)
  · refine .inr ⟨text, (SyntaxTree.read text).1, (SyntaxTree.read text).2,
      (Routine.run_orFail_eq_ok held).1, rfl, ?_⟩
    generalize SyntaxTree.read text = given at parsed ⊢
    obtain ⟨found, diagnostics⟩ := given
    obtain reported | ⟨_, _, -, finished⟩ := Routine.run_bind_eq_error parsed
    · rw [Routine.run_forM_report] at reported
      cases reported
    · cases found with
      | none => cases finished; simp
      | some found =>
          cases diagnostics with
          | nil => cases finished
          | cons diagnostic more => cases finished; simp

theorem run_readAll (paths : List String) (world : World) :
    (readAll paths).run world =
      (.ok (paths.map fun path => (path, world.readText path)), world) := by
  induction paths with
  | nil => rfl
  | cons path rest ih =>
      show (readAll rest >>= fun known => pure ((path, world.readText path) :: known)).run
        world = _
      rw [Routine.run_bind_of_ok ih]
      rfl

theorem reader_eq (read : FileReader) {paths : List String} {path : String} (among : path ∈ paths) :
    reader (paths.map fun path => (path, read path)) path = read path := by
  have known : (paths.map fun path => (path, read path)).lookup path = some (read path) := by
    induction paths with
    | nil => cases among
    | cons first rest ih => grind
  rw [reader, known, Option.getD_some]

theorem run_transpile (options : TranspileOptions) (tree : SyntaxTree) (world : World) :
    (transpile options tree).run world =
      ((tree.transpile world.readText options).result.mapError .transpile,
        world.logged (tree.transpile world.readText options).events) := by
  rw [transpile, Routine.run_bind_of_ok (run_readAll _ world), Routine.run_ofLogged,
    SyntaxTree.transpile_congr fun path => reader_eq world.readText]

theorem transpile_eq_error {options : TranspileOptions} {tree : SyntaxTree} {failure : Failure}
    {world after : World} (ran : (transpile options tree).run world = (.error failure, after)) :
    ∃ error, (tree.transpile world.readText options).result = .error error ∧
      failure = .transpile error := by
  rw [run_transpile, Prod.mk.injEq] at ran
  cases refused : (tree.transpile world.readText options).result with
  | ok result =>
      rw [refused] at ran
      cases ran.1
  | error error =>
      rw [refused] at ran
      cases ran.1
      exact ⟨error, rfl, rfl⟩

/-- A source file is transpiled to a result with the files as they are. -/
def Gives (files : FileSystem) (game : String) (defines : List (String × String))
    (source : String) (result : Transpiled) : Prop :=
  ∃ text tree, files.readText source = .ok text ∧ SyntaxTree.read text = (some tree, []) ∧
    (tree.transpile files.readText ⟨game, Path.directory source, defines⟩).result = .ok result

/-- The code that a source file is transpiled to. -/
def code? (files : FileSystem) (game : String) (defines : List (String × String))
    (source : String) : Option String := do
  let tree ← (SyntaxTree.read (← (files.readText source).toOption)).1
  let options : TranspileOptions := ⟨game, Path.directory source, defines⟩
  return (← (tree.transpile files.readText options).result.toOption).code

/-- The files that a source file is made from: itself and those that it includes. -/
def reads (files : FileSystem) (source : String) : List String :=
  source ::
    match files.readText source with
    | .ok text =>
        ((SyntaxTree.read text).1.map fun tree =>
          includePaths (Path.directory source) tree.directives).getD []
    | .error _ => []

namespace Gives

variable {files other : FileSystem} {game : String} {defines : List (String × String)}
  {source : String} {result : Transpiled}

theorem unique {second : Transpiled} (gives : Gives files game defines source result)
    (again : Gives files game defines source second) : result = second := by
  obtain ⟨text, tree, held, parsed, transpiled⟩ := gives
  obtain ⟨_, _, held', parsed', transpiled'⟩ := again
  cases held.symm.trans held'
  cases parsed.symm.trans parsed'
  exact Except.ok.inj (transpiled.symm.trans transpiled')

theorem code?_eq (gives : Gives files game defines source result) :
    code? files game defines source = some result.code := by
  obtain ⟨text, tree, held, parsed, transpiled⟩ := gives
  simp only [code?, held, parsed, transpiled, Except.toOption, Option.bind_eq_bind,
    Option.bind_some]
  rfl

/-- Other files give the same if what the source file is made from is the same there. -/
theorem of_agree (gives : Gives other game defines source result)
    (agree : ∀ path ∈ reads files source, ∀ text,
      other.readText path = .ok text → files.readText path = .ok text) :
    Gives files game defines source result := by
  obtain ⟨text, tree, held, parsed, transpiled⟩ := gives
  have same : files.readText source = .ok text := agree _ List.mem_cons_self _ held
  have included : reads files source =
      source :: includePaths (Path.directory source) tree.directives := by
    rw [reads, same]
    simp only [parsed, Option.map_some, Option.getD_some]
  refine ⟨text, tree, same, parsed, ?_⟩
  rw [← transpiled]
  refine congrArg _ (SyntaxTree.transpile_congr fun path among => ?_)
  obtain ⟨content, readable⟩ := SyntaxTree.readable_of_transpile transpiled path among
  rw [readable, agree path (included ▸ List.mem_cons_of_mem _ among) content readable]

end Gives

/-- Loading and transpiling a source file gives its result, and changes nothing. -/
theorem gives_of_run {source game : String} {defines : List (String × String)} {tree : SyntaxTree}
    {result : Transpiled} {world middle after : World}
    (loaded : (load source).run world = (.ok tree, middle))
    (transpiled : (transpile ⟨game, Path.directory source, defines⟩ tree).run middle =
      (.ok result, after)) :
    Gives world.files game defines source result ∧ after.toStorage = world.toStorage := by
  obtain ⟨text, held, parsed⟩ := load_eq_ok loaded
  obtain ⟨events, rfl⟩ := (passive_load source).after_eq loaded
  rw [run_transpile, Prod.mk.injEq] at transpiled
  obtain ⟨outcome, rfl⟩ := transpiled
  refine ⟨⟨text, tree, Storage.of_access held, parsed, SyntaxTree.transpile_of_granted ?_⟩, rfl⟩
  change (SyntaxTree.transpile world.readText _ tree).result.mapError _ = _ at outcome
  revert outcome
  cases (tree.transpile world.readText ⟨game, Path.directory source, defines⟩).result with
  | ok value => exact fun outcome => congrArg Except.ok (Except.ok.inj outcome)
  | error error => nofun

theorem writes_writeOutput (path text : String) (world : World) :
    (writeOutput path text).writes world = [(path, text)] := by
  show (path, text) :: (Routine.orFail _ (world.answer (.writeText path text)).1).writes _ = _
  rw [(Routine.Passive.orFail _ _).writes_eq_nil]

theorem run_writeOutput_of_ok {path text : String} {world : World} {files : FileSystem}
    (written : world.write path text = .ok files) :
    (writeOutput path text).run world = (.ok (), { world with files }) := by
  have answered : world.answer (.writeText path text) = (.ok (), { world with files }) := by
    rw [World.answer, written]
  rw [writeOutput, Routine.run_bind_of_ok (Routine.run_request _ _), answered]
  rfl

theorem run_writeOutput_of_error {path text : String} {world : World} {cause : SystemError}
    (refused : world.write path text = .error cause) :
    (writeOutput path text).run world = (.error (.outputUnwritable cause), world) := by
  have answered : world.answer (.writeText path text) = (.error cause, world) := by
    rw [World.answer, refused]
  rw [writeOutput, Routine.run_bind_of_ok (Routine.run_request _ _), answered]
  rfl

theorem write_of_writeOutput {path text : String} {world after : World} {done : Unit}
    (ran : (writeOutput path text).run world = (.ok done, after)) :
    world.files.write path (.text text) = .ok after.files := by
  cases written : world.write path text with
  | error cause =>
      rw [run_writeOutput_of_error written] at ran
      cases ran
  | ok files =>
      rw [run_writeOutput_of_ok written] at ran
      cases ran
      exact Storage.of_access written

end Source

end PapyrusWriter
