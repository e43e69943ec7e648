import PapyrusWriter.Proofs.BuildOutputs
/-!
# What a build starts with

Before its first source, a build reads the manifest, looks for the places that it needs, and finds
the sources. All of that is decided by the files and by what the host refuses: `prepare` is the plan
with the sources, or the first thing that is wrong, and the routine comes to the same
(`computes_preparation`).
-/

namespace PapyrusWriter

set_option autoImplicit false

namespace Build

/-- The manifest of a project. -/
def manifestOf (storage : Storage) (project : String) : Except Failure Manifest :=
  if storage.files.isFile (Path.join project Manifest.fileName) then do
    let text ←
      (storage.readText (Path.join project Manifest.fileName)).mapError .manifestUnreadable
    (Manifest.read text).mapError .manifestInvalid
  else .error .projectNotFound

/-- A place has to be there. -/
def checkPlace (there : Bool) (what path : String) : Except Failure Unit :=
  if there then .ok () else .error (.pathNotFound what path)

/-- Whether the places that a build needs are there; the first one that is not is named. -/
def checkPlaces (files : FileSystem) (places : Manifest.Places) (noCompile : Bool) :
    Except Failure Unit := do
  checkPlace (files.isDirectory places.scriptFolder) "the script directory" places.scriptFolder
  checkPlace (files.isDirectory places.scriptOutput) "the script output directory"
    places.scriptOutput
  unless noCompile do
    checkPlace (files.isFile places.flags) "the papyrus flags file" places.flags
    checkPlace (files.isFile places.compiler) "the papyrus compiler executable" places.compiler

/-- The source files of a project, in order. -/
def sourcesOf (storage : Storage) (project pattern : String) : Except Failure (List String) := do
  let glob ← (Glob.parse pattern).mapError .sourcePattern
  let locations ← (storage.filesBelow project).mapError .sourceScan
  return (locations.filter fun location => glob.accepts (relativePath location)).map
    (pathBelow project)

variable {storage : Storage}

theorem computes_loadManifest (project : String) :
    (loadManifest project).Computes storage (manifestOf storage project) := by
  unfold loadManifest manifestOf
  refine .look (storage.files.isFile (Path.join project Manifest.fileName))
    (by rintro _ rfl; rfl) ?_
  cases storage.files.isFile (Path.join project Manifest.fileName) with
  | false => exact .done _
  | true =>
      refine .look (storage.readText (Path.join project Manifest.fileName))
        (by rintro _ rfl; rfl) ?_
      refine .bind (.orFail _ _) fun text => ?_
      cases Manifest.read text <;> exact .done _

theorem computes_requireDirectory (what path : String) :
    (requireDirectory what path).Computes storage
      (checkPlace (storage.files.isDirectory path) what path) := by
  unfold requireDirectory
  refine .look (storage.files.isDirectory path) (by rintro _ rfl; rfl) ?_
  cases storage.files.isDirectory path <;> exact .done _

theorem computes_requireFile (what path : String) :
    (requireFile what path).Computes storage
      (checkPlace (storage.files.isFile path) what path) := by
  unfold requireFile
  refine .look (storage.files.isFile path) (by rintro _ rfl; rfl) ?_
  cases storage.files.isFile path <;> exact .done _

theorem computes_requirePlaces (places : Manifest.Places) (noCompile : Bool) :
    (requirePlaces places noCompile).Computes storage
      (checkPlaces storage.files places noCompile) := by
  refine .bind (computes_requireDirectory _ _) fun _ => ?_
  refine .bind (computes_requireDirectory _ _) fun _ => ?_
  cases noCompile with
  | true => exact .done _
  | false => exact .bind (computes_requireFile _ _) fun _ => computes_requireFile _ _

theorem computes_discover (project pattern : String) :
    (discover project pattern).Computes storage (sourcesOf storage project pattern) := by
  unfold discover sourcesOf
  cases Glob.parse pattern with
  | error fault => exact .done _
  | ok glob =>
      refine .look (storage.filesBelow project) (by rintro _ rfl; rfl) ?_
      exact .bind (.orFail _ _) fun locations => .done _

end Build

open Build

namespace BuildArguments

/-- What a build is to do with the files as they are, or why it does not start. -/
def prepare (arguments : BuildArguments) (storage : Storage) :
    Except Failure (Plan × List String) := do
  let manifest ← manifestOf storage arguments.project
  let places := manifest.places arguments.project
  checkPlaces storage.files places arguments.noCompile
  let sources ← sourcesOf storage arguments.project manifest.sourceGlob
  if sources.isEmpty then throw .noSources
  let defines ← manifest.defines.mapError .defineNotScalar
  return (⟨places, manifest.game, defines, arguments.noCompile⟩, sources)

/-- The steps of a build before the first source. -/
def preparation (arguments : BuildArguments) : Command (Plan × List String) := do
  let manifest ← loadManifest arguments.project
  let places := manifest.places arguments.project
  requirePlaces places arguments.noCompile
  let sources ← discover arguments.project manifest.sourceGlob
  if sources.isEmpty then Routine.fail .noSources
  Routine.report (.building manifest.projectName manifest.projectVersion)
  match manifest.defines with
  | .error name => Routine.fail (.defineNotScalar name)
  | .ok defines => pure (⟨places, manifest.game, defines, arguments.noCompile⟩, sources)

theorem computes_preparation (arguments : BuildArguments) (storage : Storage) :
    arguments.preparation.Computes storage (arguments.prepare storage) := by
  refine .bind (computes_loadManifest _) fun manifest => ?_
  refine .bind (computes_requirePlaces _ _) fun _ => ?_
  refine .bind (computes_discover _ _) fun sources => ?_
  cases sources.isEmpty with
  | true => exact .done _
  | false =>
      refine .report ?_
      cases manifest.defines <;> exact .done _

/-- The steps of a build from the first source on. -/
def conclusion (plan : Plan) (sources : List String) : Command Unit := do
  let failed ← buildAll plan sources
  if 0 < failed then Routine.fail (.compilationFailed failed sources.length)
  Routine.report .done

theorem run_eq (arguments : BuildArguments) :
    arguments.run = arguments.preparation >>= fun prepared =>
      conclusion prepared.1 prepared.2 := by
  unfold run preparation
  rw [Routine.bind_assoc]
  refine bind_congr fun manifest => ?_
  rw [Routine.bind_assoc]
  refine bind_congr fun _ => ?_
  rw [Routine.bind_assoc]
  refine bind_congr fun sources => ?_
  cases sources.isEmpty with
  | true => rfl
  | false =>
      simp only [Bool.false_eq_true, if_false]
      rw [Routine.bind_assoc]
      refine bind_congr fun _ => ?_
      cases manifest.defines <;> rfl

theorem passive_preparation (arguments : BuildArguments) : arguments.preparation.Passive := by
  refine .bind (passive_loadManifest _) fun manifest => ?_
  refine .bind (passive_requirePlaces _ _) fun _ => .bind (passive_discover _ _) fun sources => ?_
  cases sources.isEmpty with
  | true => trivial
  | false =>
      refine .bind (.request rfl) fun _ => ?_
      cases manifest.defines <;> trivial

/-- A build that starts has found the folder for its scripts. -/
theorem of_prepare {arguments : BuildArguments} {storage : Storage} {plan : Plan}
    {sources : List String} (prepared : arguments.prepare storage = .ok (plan, sources)) :
    plan.noCompile = arguments.noCompile ∧
      storage.files.isDirectory plan.places.scriptFolder = true := by
  obtain ⟨manifest, -, checking⟩ := exists_of_bind_eq_ok prepared
  obtain ⟨_, checked, finding⟩ := exists_of_bind_eq_ok checking
  obtain ⟨found, -, taking⟩ := exists_of_bind_eq_ok finding
  have directory :
      storage.files.isDirectory (manifest.places arguments.project).scriptFolder = true := by
    obtain ⟨_, there, -⟩ := exists_of_bind_eq_ok checked
    by_contra absent
    rw [checkPlace, if_neg absent] at there
    cases there
  cases empty : found.isEmpty with
  | true =>
      simp only [empty] at taking
      cases taking
  | false =>
      simp only [empty] at taking
      obtain ⟨defines, -, ended⟩ := exists_of_bind_eq_ok taking
      cases ended
      exact ⟨rfl, directory⟩

end BuildArguments

end PapyrusWriter
