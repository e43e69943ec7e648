import PapyrusWriter.Command.Init
import PapyrusWriter.Proofs.NamedEntries
import PapyrusWriter.Proofs.Routines
/-!
# What the command `init` changes

A run looks at the directory, makes the source folder if there is none, and writes the manifest. The
first of these steps changes nothing (`passive_check`), and a failed second or third step changes
nothing by itself. So a run that fails leaves the files as they were, or with a new source folder;
the latter needs a manifest that cannot be written, for whatever cause: the host may refuse it, its
path may be too long, or a link with its name may lead nowhere (`LeavesSources`).

A run that succeeds adds the manifest and, if it is missing, the source folder, and nothing else
(`Founds`), as long as no link has the name of the manifest. Such a link is followed. It can lead
through the new source folder to a file that was there before (`run_follows_links`), or to the null
device, which keeps nothing of the manifest (`Adds.manifest`).
-/

namespace PapyrusWriter

set_option autoImplicit false

namespace InitArguments

variable {arguments : InitArguments} {world after : World}

def manifestPath (arguments : InitArguments) : String :=
  Path.join arguments.project Manifest.fileName

def sourceFolder (arguments : InitArguments) : String := Path.join arguments.project "src"

/-! ## The stages of a run -/

/-- The first steps of a run, which look at the directory. -/
def check (arguments : InitArguments) : Command Unit := do
  if ← Routine.request (.exists? arguments.manifestPath) then Routine.fail .projectExists
  let names ← Routine.orFail .initFailed (← Routine.request (.list arguments.project))
  if !names.isEmpty && !arguments.force then Routine.fail .directoryNotEmpty
  Routine.report .creatingProject

/-- The last steps of a run. -/
def writeManifest (arguments : InitArguments) : Command Unit := do
  Routine.orFail .manifestUnwritable
    (← Routine.request (.writeText arguments.manifestPath Manifest.scaffold.yaml))
  Routine.report .projectCreated
  Routine.report .relativePaths
  Routine.report .checkManifest

theorem run_eq (arguments : InitArguments) :
    arguments.run =
      (arguments.check >>= fun _ => createSourceFolder arguments.project >>= fun _ =>
        arguments.writeManifest) := by
  unfold run check
  refine congrArg (Routine.ask _) (funext fun there => ?_)
  cases there with
  | true => rfl
  | false =>
      refine congrArg (Routine.ask _) (funext fun answer => ?_)
      cases answer with
      | error cause => rfl
      | ok names =>
          show ite (_ = true) _ _ = Routine.bind (ite (_ = true) _ _) _
          generalize (!names.isEmpty && !arguments.force) = filled
          cases filled <;> rfl

theorem passive_check (arguments : InitArguments) : arguments.check.Passive := by
  refine .bind (.request rfl) fun there => ?_
  have rest : ((do
      let names ← Routine.orFail .initFailed (← Routine.request (.list arguments.project))
      if !names.isEmpty && !arguments.force then Routine.fail .directoryNotEmpty
      Routine.report .creatingProject) : Command Unit).Passive := by
    refine .bind (.request rfl) fun answer => .bind (.orFail _ _) fun names => ?_
    split
    · trivial
    · exact .request rfl
  cases there with
  | true => trivial
  | false => exact rest

theorem of_check (checked : arguments.check.run world = (.ok (), after)) :
    world.files.exists? arguments.manifestPath = false ∧
      world.files.isDirectory arguments.project = true := by
  obtain ⟨there, _, asked, going⟩ := Routine.run_bind_eq_ok checked
  cases asked
  cases fresh : world.files.exists? arguments.manifestPath with
  | true =>
      simp only [fresh] at going
      cases going
  | false =>
      simp only [fresh] at going
      obtain ⟨answer, _, asked, going⟩ := Routine.run_bind_eq_ok going
      cases asked
      obtain ⟨names, _, listed, -⟩ := Routine.run_bind_eq_ok going
      have granted := (Routine.run_orFail_eq_ok listed).1
      exact ⟨rfl, FileSystem.isDirectory_of_list (Storage.of_access granted)⟩

/-- The files with a source folder: as they were if there is one, and else with a new one. -/
inductive Prepares (arguments : InitArguments) (files : FileSystem) : FileSystem → Prop
  | present (directory : files.isDirectory arguments.sourceFolder = true) :
      Prepares arguments files files
  | made {made : FileSystem} (absent : files.isDirectory arguments.sourceFolder = false)
      (created : files.createDirectory arguments.sourceFolder = .ok made) :
      Prepares arguments files made

theorem run_createSourceFolder (arguments : InitArguments) (world : World) :
    (∃ cause events, (createSourceFolder arguments.project).run world =
        (.error (.initFailed cause), world.logged events)) ∨
      ∃ made events, arguments.Prepares world.files made ∧
        (createSourceFolder arguments.project).run world =
          (.ok (), { world with files := made }.logged events) := by
  unfold createSourceFolder
  rw [← sourceFolder, Routine.run_bind_of_ok (Routine.run_request _ _), World.answer]
  cases there : world.files.isDirectory arguments.sourceFolder with
  | true => exact .inr ⟨world.files, [], .present there, by rw [World.logged_nil]; rfl⟩
  | false =>
      have reported : (Routine.report .creatingSourceFolder : Command Unit).run world =
          (.ok (), world.logged [.creatingSourceFolder]) := rfl
      simp only [Bool.false_eq_true, if_false]
      rw [Routine.run_bind_of_ok reported, Routine.run_bind_of_ok (Routine.run_request _ _),
        World.answer]
      cases created : world.createDirectory arguments.sourceFolder with
      | error cause =>
          refine .inl ⟨cause, [.creatingSourceFolder], ?_⟩
          simp only [World.logged, created]
          rfl
      | ok made =>
          refine .inr ⟨made, [.creatingSourceFolder], .made there (Storage.of_access created), ?_⟩
          simp only [World.logged, created]
          rfl

/-- The manifest is written, or it is not and nothing changes. -/
theorem run_writeManifest (arguments : InitArguments) (world : World) :
    (∃ cause, arguments.writeManifest.run world = (.error (.manifestUnwritable cause), world)) ∨
      ∃ files events,
        world.files.write arguments.manifestPath (.text Manifest.scaffold.yaml) = .ok files ∧
        arguments.writeManifest.run world = (.ok (), { world with files }.logged events) := by
  rw [writeManifest, Routine.run_bind_of_ok (Routine.run_request _ _), World.answer]
  cases written : world.write arguments.manifestPath Manifest.scaffold.yaml with
  | error cause => exact .inl ⟨cause, rfl⟩
  | ok files =>
      refine .inr ⟨files, [.projectCreated, .relativePaths, .checkManifest],
        Storage.of_access written, ?_⟩
      show (_, (({ world with files }.logged [_]).logged [_]).logged [_]) = _
      rw [World.logged_logged, World.logged_logged]
      rfl

theorem run_of_exists (there : world.files.exists? arguments.manifestPath = true) :
    arguments.run.run world = (.error .projectExists, world) := by
  have refused : arguments.check.run world = (.error .projectExists, world) := by
    rw [check, Routine.run_bind_of_ok (Routine.run_request _ _), World.answer, there]
    rfl
  rw [run_eq, Routine.run_bind_of_error refused]

/-! ## The source folder -/

theorem isName_src : Walk.IsName "src" :=
  ⟨by simp [Walk.IsBlank], by decide, by decide, by decide, by decide⟩

theorem isName_manifest : Walk.IsName Manifest.fileName :=
  ⟨by simp [Walk.IsBlank, Manifest.fileName], by decide, by decide, by decide, by decide⟩

/-- The files with a source folder in a directory: it was there, or it is new and empty. -/
structure WithSources (arguments : InitArguments) (folder : Location) (files made : FileSystem) :
    Prop where
  here : made.here = files.here
  toFolder : made.place? arguments.project = some folder
  elsewhere : ∀ location, location ≠ folder ++ ["src"] →
    Node.SameKind (files.top.get? location) (made.top.get? location)
  sources : files.isDirectory arguments.sourceFolder = true ∧ made = files ∨
    files.isDirectory arguments.sourceFolder = false ∧
      files.top.get? (folder ++ ["src"]) = none ∧
      made = { files with top := files.top.set (folder ++ ["src"]) (.directory []) } ∧
      made.top.get? (folder ++ ["src"]) = some (.directory [])

section

variable {files made last : FileSystem} {folder location : Location}

/-- A source folder has its name in the directory of the project. -/
theorem present_of_isDirectory (toFolder : files.place? arguments.project = some folder)
    (directory : files.top.HasDirectory folder)
    (there : files.isDirectory arguments.sourceFolder = true) :
    files.top.get? (folder ++ ["src"]) ≠ none := by
  intro free
  obtain ⟨location, led, entries, found⟩ := FileSystem.isDirectory_iff.mp there
  have located := FileSystem.locate_join_name toFolder directory isName_src .use
    (FileSystem.short_of_place? led) (.inr fun target link => by rw [free] at link; cases link)
  rw [free] at located
  have nowhere := (FileSystem.place?_of_locate located).1
  cases led.symm.trans nowhere
  cases free.symm.trans found

theorem Prepares.withSources (prepares : arguments.Prepares files made)
    (toFolder : files.place? arguments.project = some folder)
    (directory : files.top.HasDirectory folder) : arguments.WithSources folder files made := by
  cases prepares with
  | present there => exact ⟨rfl, toFolder, fun _ _ => .inl rfl, .inl ⟨there, rfl⟩⟩
  | made missing created =>
      obtain ⟨free, rfl⟩ :=
        FileSystem.createDirectory_join_name toFolder directory isName_src created
      have slot : files.top.Slot (folder ++ ["src"]) :=
        ⟨⟨folder, "src", rfl, directory⟩, .inl free⟩
      obtain ⟨entries, found⟩ := directory
      exact ⟨rfl, FileSystem.place?_set_directory slot free toFolder found,
        fun _ => slot.sameKind_set Node.get?_directory_nil,
        .inr ⟨missing, free, rfl, slot.get?_set _⟩⟩

namespace WithSources

variable (grown : arguments.WithSources folder files made)

include grown

theorem content?_eq (location : Location) :
    made.top.content? location = files.top.content? location := by
  by_cases atSources : location = folder ++ ["src"]
  · obtain ⟨-, rfl⟩ | ⟨-, free, -, new⟩ := grown.sources
    · rfl
    · rw [atSources, Node.content?, Node.content?, free, new]
  · exact (grown.elsewhere location atSources).content?_eq

theorem hasDirectory (directory : files.top.HasDirectory folder) :
    made.top.HasDirectory folder :=
  (grown.elsewhere folder (by simp)).hasDirectory directory

theorem isDirectory (directory : files.top.HasDirectory folder) :
    made.isDirectory arguments.project = true :=
  FileSystem.isDirectory_iff.mpr ⟨folder, grown.toFolder, grown.hasDirectory directory⟩

/-- The source folder takes a name that is not the manifest's. -/
theorem sameManifest :
    Node.SameKind (files.top.get? (folder ++ [Manifest.fileName]))
      (made.top.get? (folder ++ [Manifest.fileName])) :=
  grown.elsewhere _ (by simp [Manifest.fileName])

end WithSources

/-! ## The manifest -/

/-- No link has the name of the manifest. -/
def Unlinked (files : FileSystem) (folder : Location) : Prop :=
  ∀ target, files.top.get? (folder ++ [Manifest.fileName]) ≠ some (.link target)

/-- The entry with the name of the manifest is what the manifest's path leads to. -/
theorem place?_manifestPath (toFolder : files.place? arguments.project = some folder)
    (directory : files.top.HasDirectory folder) (unlinked : Unlinked files folder)
    (short : arguments.manifestPath.utf8ByteSize ≤ Walk.pathLimit) :
    files.place? arguments.manifestPath = some (folder ++ [Manifest.fileName]) := by
  have located := FileSystem.locate_join_name toFolder directory isName_manifest .use short
    (.inr unlinked)
  obtain ⟨led, -⟩ := FileSystem.place?_of_locate located
  rw [manifestPath, led]
  cases files.top.get? (folder ++ [Manifest.fileName]) <;> rfl

theorem absent_of_fresh (fresh : files.exists? arguments.manifestPath = false)
    (led : files.place? arguments.manifestPath = some location) :
    files.top.get? location = none := by
  by_contra found
  obtain ⟨node, found⟩ := Option.ne_none_iff_exists'.mp found
  have there := FileSystem.exists?_iff.mpr ⟨location, node, led, found⟩
  rw [fresh] at there
  cases there

theorem short_of_write {content : Content}
    (written : files.write arguments.manifestPath content = .ok last) :
    arguments.manifestPath.utf8ByteSize ≤ Walk.pathLimit := by
  obtain ⟨location, led, -⟩ := FileSystem.write_cases written
  exact FileSystem.short_of_place? led

/-- Before a run that gets to the manifest, its path leads to nothing. -/
structure Ready (arguments : InitArguments) (folder : Location) (files made : FileSystem) :
    Prop where
  toFolder : files.place? arguments.project = some folder
  directory : files.top.HasDirectory folder
  fresh : files.exists? arguments.manifestPath = false
  grown : arguments.WithSources folder files made

namespace Ready

variable (ready : arguments.Ready folder files made)

include ready

theorem absent (unlinked : Unlinked files folder)
    (short : arguments.manifestPath.utf8ByteSize ≤ Walk.pathLimit) :
    made.top.get? (folder ++ [Manifest.fileName]) = none := by
  have before := absent_of_fresh ready.fresh
    (place?_manifestPath ready.toFolder ready.directory unlinked short)
  exact (before ▸ ready.grown.sameManifest).eq_none

/-- Without a link and with a short path, the manifest is a new file. -/
theorem write_eq (unlinked : Unlinked files folder)
    (short : arguments.manifestPath.utf8ByteSize ≤ Walk.pathLimit) (content : Content) :
    made.write arguments.manifestPath content =
      .ok { made with
        top := made.top.set (folder ++ [Manifest.fileName]) (.file content false) } := by
  have absent := ready.absent unlinked short
  have located := FileSystem.locate_join_name ready.grown.toFolder
    (ready.grown.hasDirectory ready.directory) isName_manifest .create short
    (.inr fun target link => by rw [absent] at link; cases link)
  rw [FileSystem.write, manifestPath, located, absent]
  rfl

end Ready

/-! ## What a run leaves -/

/-- The manifest could not be written, and a new and empty source folder is all that differs. -/
structure LeavesSources (arguments : InitArguments) (folder : Location) (failure : Failure)
    (files after : FileSystem) : Prop where
  toFolder : files.place? arguments.project = some folder
  unwritable : ∃ cause, failure = .manifestUnwritable cause
  absent : files.top.get? (folder ++ ["src"]) = none
  left : after = { files with top := files.top.set (folder ++ ["src"]) (.directory []) }

/-- The manifest is at its target, unless that is the null device, and beside it and the source
folder nothing is different. -/
structure Adds (arguments : InitArguments) (folder target : Location) (files after : FileSystem) :
    Prop where
  toFolder : files.place? arguments.project = some folder
  directory : files.top.HasDirectory folder
  stillToFolder : after.place? arguments.project = some folder
  toTarget : after.place? arguments.manifestPath = some target
  manifest : after.top.content? target = some (.text Manifest.scaffold.yaml) ∨
    after.top.get? target = some .device
  contents : ∀ location, location ≠ target →
    after.top.content? location = files.top.content? location
  sources : files.isDirectory arguments.sourceFolder = true ∧
      Node.SameKind (files.top.get? (folder ++ ["src"])) (after.top.get? (folder ++ ["src"])) ∨
    files.top.get? (folder ++ ["src"]) = none ∧ after.top.HasDirectory (folder ++ ["src"])
  others : ∀ location, location ≠ target → location ≠ folder ++ ["src"] →
    Node.SameKind (files.top.get? location) (after.top.get? location)
  fresh : files.isDirectory arguments.sourceFolder = true → files.top.get? target = none

/-- The directory has a new manifest and, if it was missing, a new and empty source folder, and
beside these nothing is different. -/
structure Founds (arguments : InitArguments) (folder : Location) (files after : FileSystem) :
    Prop where
  here : after.here = files.here
  fresh : files.top.get? (folder ++ [Manifest.fileName]) = none
  manifest : after.top.get? (folder ++ [Manifest.fileName]) =
    some (.file (.text Manifest.scaffold.yaml) false)
  sources : files.isDirectory arguments.sourceFolder = true ∧
      after.top.get? (folder ++ ["src"]) = files.top.get? (folder ++ ["src"]) ∨
    files.top.get? (folder ++ ["src"]) = none ∧
      after.top.get? (folder ++ ["src"]) = some (.directory [])
  others : ∀ location, location ≠ folder ++ [Manifest.fileName] → location ≠ folder ++ ["src"] →
    Node.SameKind (files.top.get? location) (after.top.get? location)

namespace Ready

variable (ready : arguments.Ready folder files made)

include ready

theorem leavesSources (cause : SystemError) :
    made = files ∨ arguments.LeavesSources folder (.manifestUnwritable cause) files made := by
  obtain ⟨-, same⟩ | ⟨-, free, left, -⟩ := ready.grown.sources
  · exact .inl same
  · exact .inr ⟨ready.toFolder, ⟨cause, rfl⟩, free, left⟩

section Written

variable (written : made.write arguments.manifestPath (.text Manifest.scaffold.yaml) = .ok last)

include written

theorem adds : ∃ target, arguments.Adds folder target files last := by
  obtain ⟨alters, target, toTarget, held⟩ :=
    FileSystem.alters_of_write (ready.grown.isDirectory ready.directory) written
  have before : made.place? arguments.manifestPath = some target :=
    (alters.places _).symm.trans toTarget
  have untouched : ∀ location, location ≠ target →
      ¬ made.place? arguments.manifestPath = some location := by
    intro location differs led
    rw [before] at led
    exact differs (Option.some.inj led).symm
  refine ⟨target, ready.toFolder, ready.directory,
    (alters.places _).trans ready.grown.toFolder, toTarget, held, ?_, ?_, ?_, ?_⟩
  · intro location differs
    rw [alters.content?_eq (untouched location differs), ready.grown.content?_eq]
  · obtain ⟨there, rfl⟩ | ⟨-, absent, -, new⟩ := ready.grown.sources
    · refine .inl ⟨there, alters.elsewhere _ (untouched _ ?_)⟩
      rintro rfl
      exact present_of_isDirectory ready.toFolder ready.directory there
        (absent_of_fresh ready.fresh before)
    · exact .inr ⟨absent, alters.directories _ ⟨[], new⟩⟩
  · intro location differs other
    exact (ready.grown.elsewhere location other).trans
      (alters.elsewhere location (untouched location differs))
  · intro there
    obtain ⟨-, rfl⟩ | ⟨missing, -⟩ := ready.grown.sources
    · exact absent_of_fresh ready.fresh before
    · rw [there] at missing
      cases missing

theorem founds (unlinked : Unlinked files folder) : arguments.Founds folder files last := by
  have short := short_of_write written
  have before := absent_of_fresh ready.fresh
    (place?_manifestPath ready.toFolder ready.directory unlinked short)
  have free := ready.absent unlinked short
  rw [ready.write_eq unlinked short] at written
  cases written
  have slot : made.top.Slot (folder ++ [Manifest.fileName]) :=
    ⟨⟨folder, _, rfl, ready.grown.hasDirectory ready.directory⟩, .inl free⟩
  have others : ∀ location, location ≠ folder ++ [Manifest.fileName] →
      Node.SameKind (made.top.get? location) ((made.top.set (folder ++ [Manifest.fileName])
        (.file (.text Manifest.scaffold.yaml) false)).get? location) :=
    fun _ => slot.sameKind_set (Node.get?_file _ _)
  have kept : (made.top.set (folder ++ [Manifest.fileName])
      (.file (.text Manifest.scaffold.yaml) false)).get? (folder ++ ["src"]) =
        made.top.get? (folder ++ ["src"]) := by
    apply Node.get?_set_of_incomparable <;>
      simp [List.prefix_append_right_inj, List.cons_prefix_cons, Manifest.fileName]
  refine ⟨ready.grown.here, before, slot.get?_set _, ?_, ?_⟩
  · obtain ⟨there, rfl⟩ | ⟨-, absent, -, new⟩ := ready.grown.sources
    · exact .inl ⟨there, kept⟩
    · exact .inr ⟨absent, kept.trans new⟩
  · intro location differs other
    exact (ready.grown.elsewhere location other).trans (others location differs)

end Written

end Ready

theorem Founds.content?_eq (founds : arguments.Founds folder files last) {content : Content}
    (held : files.top.content? location = some content) :
    last.top.content? location = some content := by
  by_cases atManifest : location = folder ++ [Manifest.fileName]
  · rw [atManifest, Node.content?, founds.fresh] at held
    cases held
  · by_cases atSources : location = folder ++ ["src"]
    · subst atSources
      obtain ⟨-, same⟩ | ⟨free, -⟩ := founds.sources
      · rwa [Node.content?, same]
      · rw [Node.content?, free] at held
        cases held
    · rw [(founds.others location atManifest atSources).content?_eq, held]

theorem Adds.content?_eq {target : Location} (adds : arguments.Adds folder target files last)
    (there : files.isDirectory arguments.sourceFolder = true) {content : Content}
    (held : files.top.content? location = some content) :
    last.top.content? location = some content := by
  by_cases atTarget : location = target
  · rw [atTarget, Node.content?, adds.fresh there] at held
    cases held
  · rw [adds.contents location atTarget, held]

namespace Founds

variable (founds : arguments.Founds folder files last)

include founds

/-- Every path to the directory, with the name of the manifest, leads to the manifest. -/
theorem place?_manifest {again : InitArguments} (toFolder : last.place? again.project = some folder)
    (short : again.manifestPath.utf8ByteSize ≤ Walk.pathLimit) :
    last.place? again.manifestPath = some (folder ++ [Manifest.fileName]) := by
  have directory := Node.hasDirectory_of_get?_append founds.manifest
  refine place?_manifestPath toFolder directory ?_ short
  intro target link
  cases founds.manifest.symm.trans link

theorem target_eq {target : Location} (adds : arguments.Adds folder target files last) :
    target = folder ++ [Manifest.fileName] := by
  have led := founds.place?_manifest adds.stillToFolder (FileSystem.short_of_place? adds.toTarget)
  exact Option.some.inj (adds.toTarget.symm.trans led)

/-- A project is left alone, whatever path leads to it. -/
theorem run_again {again : InitArguments} {later : World} (same : later.files = last)
    (toFolder : last.place? again.project = some folder)
    (short : again.manifestPath.utf8ByteSize ≤ Walk.pathLimit) :
    again.run.run later = (.error .projectExists, later) := by
  subst same
  have led := founds.place?_manifest toFolder short
  exact run_of_exists (FileSystem.exists?_iff.mpr ⟨_, _, led, founds.manifest⟩)

end Founds

theorem Adds.run_again {target : Location} (adds : arguments.Adds folder target files last)
    {again : InitArguments} {later : World} (same : later.files = last)
    (spelled : again.project = arguments.project) :
    again.run.run later = (.error .projectExists, later) := by
  subst same
  have path : again.manifestPath = arguments.manifestPath := by
    rw [manifestPath, manifestPath, spelled]
  have found : ∃ node, later.files.top.get? target = some node := by
    obtain held | device := adds.manifest
    · by_contra absent
      rw [not_exists, ← Option.eq_none_iff_forall_ne_some] at absent
      rw [Node.content?, absent] at held
      cases held
    · exact ⟨_, device⟩
  obtain ⟨node, found⟩ := found
  exact run_of_exists (FileSystem.exists?_iff.mpr ⟨target, node, path ▸ adds.toTarget, found⟩)

end

/-- What a run can come to before it writes the manifest. -/
inductive Attempt (arguments : InitArguments) (world : World) : Prop
  | refused (failure : Failure) (events : List Event)
      (ran : arguments.run.run world = (.error failure, world.logged events))
  | prepared (made : FileSystem) (events : List Event) (folder : Location)
      (ready : arguments.Ready folder world.files made)
      (ran : arguments.run.run world =
        arguments.writeManifest.run ({ world with files := made }.logged events))

theorem attempt (arguments : InitArguments) (world : World) : Attempt arguments world := by
  have ran : arguments.run.run world = arguments.run.run world := rfl
  conv at ran => rhs; rw [run_eq]
  rcases checked : arguments.check.run world with ⟨_ | _, after⟩
  · obtain ⟨events, rfl⟩ := arguments.passive_check.after_eq checked
    rw [Routine.run_bind_of_error checked] at ran
    exact .refused _ events ran
  · obtain ⟨events, rfl⟩ := arguments.passive_check.after_eq checked
    rw [Routine.run_bind_of_ok checked] at ran
    obtain ⟨fresh, directory⟩ := of_check checked
    obtain ⟨folder, toFolder, hasDirectory⟩ := FileSystem.isDirectory_iff.mp directory
    obtain ⟨cause, more, failed⟩ | ⟨made, more, prepares, done⟩ :=
      arguments.run_createSourceFolder (world.logged events)
    · rw [Routine.run_bind_of_error failed, World.logged_logged] at ran
      exact .refused _ _ ran
    · rw [Routine.run_bind_of_ok done] at ran
      refine .prepared made (events ++ more) folder
        ⟨toFolder, hasDirectory, fresh, prepares.withSources toFolder hasDirectory⟩ ?_
      rw [← World.logged_logged]
      exact ran

theorem spared_of_error {failure : Failure}
    (failed : arguments.run.run world = (.error failure, after)) :
    after.files = world.files ∨
      ∃ folder, arguments.LeavesSources folder failure world.files after.files := by
  cases arguments.attempt world with
  | refused _ _ refused =>
      rw [refused] at failed
      cases failed
      exact .inl rfl
  | prepared made events folder ready prepared =>
      rw [prepared] at failed
      obtain ⟨cause, refused⟩ | ⟨_, _, -, done⟩ :=
        arguments.run_writeManifest (.logged { world with files := made } events)
      · rw [refused] at failed
        cases failed
        exact (ready.leavesSources cause).imp_right fun left => ⟨folder, left⟩
      · rw [done] at failed
        cases failed

theorem ready_of_ok (succeeded : arguments.run.run world = (.ok (), after)) :
    ∃ folder made, arguments.Ready folder world.files made ∧
      made.write arguments.manifestPath (.text Manifest.scaffold.yaml) = .ok after.files := by
  cases arguments.attempt world with
  | refused _ _ refused =>
      rw [refused] at succeeded
      cases succeeded
  | prepared made events folder ready prepared =>
      rw [prepared] at succeeded
      obtain ⟨_, refused⟩ | ⟨files, _, written, done⟩ :=
        arguments.run_writeManifest (.logged { world with files := made } events)
      · rw [refused] at succeeded
        cases succeeded
      · rw [done] at succeeded
        cases succeeded
        exact ⟨folder, made, ready, written⟩

/-- A world with some entries in the current directory. -/
def yard (entries : List (String × Node)) : World where
  files := ⟨.directory entries, []⟩
  programs _ _ _ := .error .notFound

/-- The run that makes the current directory a project, whatever is in it. -/
def forced : InitArguments := ⟨true, "."⟩

/-- A directory with a file in it. -/
def noted : World := yard [("notes.txt", .file (.text "mine") false)]

/-- A host without room for another file. -/
def crammed : World :=
  { noted with refusals := fun _ request => request.written?.map fun _ => .noSpace }

example : (forced.run.run crammed).1 = .error (.manifestUnwritable .noSpace) ∧
    (forced.run.run crammed).2.files.top.get? ["src"] = some (.directory []) :=
  ⟨rfl, rfl⟩

end InitArguments

end PapyrusWriter
