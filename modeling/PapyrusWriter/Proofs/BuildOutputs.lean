import PapyrusWriter.Command.Run
import PapyrusWriter.Proofs.FileWrites
import PapyrusWriter.Proofs.SourceFiles
/-!
# What a build leaves

A build without the compiler transpiles its sources one after the other, each with the files that
those before it left (`Plan.Builds`). Where two outputs are one file, the last one stays; a source
that includes an earlier output includes the new text. If neither happens, every output is what its
source gave before the build.
-/

namespace PapyrusWriter

set_option autoImplicit false

theorem Routine.run_outcome {ε α : Type} (routine : Routine ε α) (world : World) :
    routine.outcome.run world = (.ok (routine.run world).1, (routine.run world).2) := by
  induction routine generalizing world with
  | done result => rfl
  | ask request next ih => exact ih _ _

/-- The exit code tells success from failure. -/
theorem Invocation.run_of_main_eq_zero {invocation : Invocation} {world after : World}
    (ended : invocation.main.run world = (.ok 0, after)) :
    invocation.run.run world = (.ok (), after) := by
  rw [main, Routine.run_bind_of_ok (Routine.run_outcome _ _)] at ended
  cases ran : invocation.run.run world with
  | mk outcome left =>
      rw [ran] at ended
      cases outcome with
      | ok done => cases ended; rfl
      | error failure => cases ended

namespace Build

/-- The output file of a source. -/
def Plan.output (plan : Plan) (source : String) : String :=
  Path.join plan.places.scriptFolder (Source.outputName source)

/-- The files before and after sources are transpiled, one after the other. -/
inductive Plan.Builds (plan : Plan) : FileSystem → List String → FileSystem → Prop
  | nil (files : FileSystem) : Plan.Builds plan files [] files
  | cons {files next after : FileSystem} {source : String} {rest : List String}
      {result : Transpiled}
      (gives : Source.Gives files plan.game plan.defines source result)
      (written : files.write (plan.output source) (.text result.code) = .ok next)
      (later : Plan.Builds plan next rest after) : Plan.Builds plan files (source :: rest) after

section Runs

variable {plan : Plan} {world after : World}

theorem write_of_buildSource {source : String} {compiled : Bool} (skips : plan.noCompile = true)
    (ran : (buildSource plan source).run world = (.ok compiled, after)) :
    ∃ result, Source.Gives world.files plan.game plan.defines source result ∧
      world.files.write (plan.output source) (.text result.code) = .ok after.files := by
  obtain ⟨_, _, reported, loading⟩ := Routine.run_bind_eq_ok ran
  cases reported
  obtain ⟨tree, _, loaded, transpiling⟩ := Routine.run_bind_eq_ok loading
  obtain ⟨result, _, transpiled, writing⟩ := Routine.run_bind_eq_ok transpiling
  obtain ⟨_, _, written, ending⟩ := Routine.run_bind_eq_ok writing
  obtain ⟨gives, same⟩ := Source.gives_of_run loaded transpiled
  refine ⟨result, gives, ?_⟩
  have wrote := Source.write_of_writeOutput written
  rw [same] at wrote
  rw [if_pos skips] at ending
  cases ending
  exact wrote

theorem builds_of_buildAll {sources : List String} {failed : Nat} (skips : plan.noCompile = true)
    (ran : (buildAll plan sources).run world = (.ok failed, after)) :
    plan.Builds world.files sources after.files := by
  induction sources generalizing world failed with
  | nil =>
      cases ran
      exact .nil _
  | cons source rest ih =>
      obtain ⟨compiled, _, built, others⟩ := Routine.run_bind_eq_ok ran
      obtain ⟨count, _, remaining, ended⟩ := Routine.run_bind_eq_ok others
      cases ended
      obtain ⟨result, gives, written⟩ := write_of_buildSource skips built
      exact .cons gives written (ih remaining)

theorem passive_loadManifest (project : String) : (loadManifest project).Passive := by
  refine .bind (.request rfl) fun found => ?_
  cases found with
  | false => trivial
  | true =>
      refine .bind (.request rfl) fun answer => .bind (.orFail _ _) fun text => ?_
      cases Manifest.read text <;> trivial

theorem passive_requireDirectory (what path : String) : (requireDirectory what path).Passive :=
  .bind (.request rfl) fun found => by cases found <;> trivial

theorem passive_requireFile (what path : String) : (requireFile what path).Passive :=
  .bind (.request rfl) fun found => by cases found <;> trivial

theorem passive_requirePlaces (places : Manifest.Places) (noCompile : Bool) :
    (requirePlaces places noCompile).Passive := by
  refine .bind (passive_requireDirectory _ _) fun _ => ?_
  refine .bind (passive_requireDirectory _ _) fun _ => ?_
  cases noCompile with
  | true => trivial
  | false => exact .bind (passive_requireFile _ _) fun _ => passive_requireFile _ _

/-- The places that a build needs are there. -/
theorem isDirectory_of_requirePlaces {places : Manifest.Places} {done : Unit}
    (ran : (requirePlaces places true).run world = (.ok done, after)) :
    world.files.isDirectory places.scriptFolder = true := by
  obtain ⟨_, _, required, -⟩ := Routine.run_bind_eq_ok ran
  obtain ⟨found, _, asked, ended⟩ := Routine.run_bind_eq_ok required
  cases asked
  cases there : world.files.isDirectory places.scriptFolder with
  | true => rfl
  | false =>
      simp only [there] at ended
      cases ended

theorem passive_discover (root pattern : String) : (discover root pattern).Passive := by
  unfold discover
  cases Glob.parse pattern with
  | error fault => trivial
  | ok glob => exact .bind (.request rfl) fun _ => .bind (.orFail _ _) fun _ => trivial

/-- Finding the sources does not depend on the log. -/
theorem discover_logged (root pattern : String) (world : World) (events : List Event) :
    ((discover root pattern).run (world.logged events)).1 =
      ((discover root pattern).run world).1 := by
  unfold discover
  cases Glob.parse pattern with
  | error fault => rfl
  | ok glob =>
      change ((Routine.orFail _ (world.filesBelow root) >>= _).run _).1 =
        ((Routine.orFail _ (world.filesBelow root) >>= _).run _).1
      cases world.filesBelow root <;> rfl

end Runs

theorem builds_of_main {project : String} {world after : World}
    (ended : (Invocation.build ⟨true, project⟩).main.run world = (.ok 0, after)) :
    ∃ manifest defines sources,
      ((loadManifest project).run world).1 = .ok manifest ∧ manifest.defines = .ok defines ∧
      ((discover project manifest.sourceGlob).run world).1 = .ok sources ∧
      world.files.isDirectory (manifest.places project).scriptFolder = true ∧
      Plan.Builds ⟨manifest.places project, manifest.game, defines, true⟩ world.files sources
        after.files := by
  have ran : (BuildArguments.run ⟨true, project⟩).run world = (.ok (), after) :=
    Invocation.run_of_main_eq_zero ended
  obtain ⟨manifest, _, loaded, requiring⟩ := Routine.run_bind_eq_ok ran
  obtain ⟨events, rfl⟩ := (passive_loadManifest project).after_eq loaded
  obtain ⟨_, _, required, discovering⟩ := Routine.run_bind_eq_ok requiring
  obtain ⟨more, rfl⟩ := (passive_requirePlaces _ _).after_eq required
  obtain ⟨sources, middle, discovered, building⟩ := Routine.run_bind_eq_ok discovering
  rw [World.logged_logged] at discovered
  have found := discover_logged project manifest.sourceGlob world (events ++ more)
  rw [discovered] at found
  obtain ⟨_, rfl⟩ := (passive_discover _ _).after_eq discovered
  cases empty : sources.isEmpty with
  | true =>
      simp only [empty] at building
      cases building
  | false =>
      simp only [empty] at building
      obtain ⟨_, _, reported, taking⟩ := Routine.run_bind_eq_ok building
      cases reported
      cases defined : manifest.defines with
      | error name =>
          rw [defined] at taking
          cases taking
      | ok defines =>
          rw [defined] at taking
          obtain ⟨failed, last, built, finishing⟩ := Routine.run_bind_eq_ok taking
          have same : after.files = last.files := by
            split at finishing
            · cases finishing
            · cases finishing
              rfl
          have directory := isDirectory_of_requirePlaces required
          have builds := builds_of_buildAll rfl built
          exact ⟨manifest, defines, sources, congrArg Prod.fst loaded, defined, found.symm,
            directory, same ▸ builds⟩

/-- The locations that the outputs of sources are at. -/
def Plan.Touches (plan : Plan) (files : FileSystem) (sources : List String)
    (location : Location) : Prop :=
  ∃ source ∈ sources, files.place? (plan.output source) = some location

namespace Plan.Builds

variable {plan : Plan} {files after : FileSystem} {sources earlier later : List String}
  {source : String}

theorem append_cons (builds : plan.Builds files (earlier ++ source :: later) after) :
    ∃ before result next, plan.Builds files earlier before ∧
      Source.Gives before plan.game plan.defines source result ∧
      before.write (plan.output source) (.text result.code) = .ok next ∧
      plan.Builds next later after := by
  induction earlier generalizing files with
  | nil =>
      cases builds with
      | cons gives written others => exact ⟨_, _, _, .nil files, gives, written, others⟩
  | cons first rest ih =>
      cases builds with
      | cons gives written others =>
          obtain ⟨before, result, next, front, here, wrote, back⟩ := ih others
          exact ⟨before, result, next, .cons gives written front, here, wrote, back⟩

/-- A build alters the files that its sources' outputs are at. -/
theorem alters (builds : plan.Builds files sources after)
    (directory : files.isDirectory plan.places.scriptFolder = true) :
    files.Alters (plan.Touches files sources) after := by
  induction builds with
  | nil files => exact .refl _ _
  | cons gives written others ih =>
      obtain ⟨first, -⟩ := FileSystem.alters_of_write directory written
      refine (first.trans (ih (first.isDirectory directory))).mono fun location touched => ?_
      obtain here | ⟨other, among, there⟩ := touched
      · exact ⟨_, List.mem_cons_self, here⟩
      · exact ⟨other, List.mem_cons_of_mem _ among, (first.places _).symm.trans there⟩

/-- An output that no later source writes to stays. -/
theorem keeps_of_append_cons (builds : plan.Builds files (earlier ++ source :: later) after)
    (directory : files.isDirectory plan.places.scriptFolder = true) :
    ∃ before result, plan.Builds files earlier before ∧
      Source.Gives before plan.game plan.defines source result ∧
      ((∀ other ∈ later, files.place? (plan.output other) ≠ files.place? (plan.output source)) →
        after.Keeps (plan.output source) result.code) := by
  obtain ⟨before, result, next, front, gives, written, back⟩ := builds.append_cons
  refine ⟨before, result, front, gives, fun apart => ?_⟩
  -- The places are those before the build, whatever was written until then.
  have former := front.alters directory
  obtain ⟨here, kept⟩ := FileSystem.alters_of_write (former.isDirectory directory) written
  have reached := former.trans here
  refine (back.alters (reached.isDirectory directory)).keeps ?_ kept
  rintro location led ⟨other, among, same⟩
  rw [reached.places] at led same
  exact apart other among (same.trans led.symm)

/-- A source that reads no earlier output gives what it gave before the build. -/
theorem gives_of_apart {before : FileSystem} {result : Transpiled}
    (front : plan.Builds files earlier before)
    (directory : files.isDirectory plan.places.scriptFolder = true)
    (apart : ∀ first ∈ earlier, ∀ path ∈ Source.reads files source,
      files.place? path ≠ files.place? (plan.output first))
    (gives : Source.Gives before plan.game plan.defines source result) :
    Source.Gives files plan.game plan.defines source result := by
  refine gives.of_agree fun path among text => ?_
  refine ((front.alters directory).readText_iff ?_).mp
  rintro location led ⟨first, member, same⟩
  exact apart first member path among (led.trans same.symm)

end Plan.Builds

/-- What sources, in their order, leave in their output files. -/
structure Plan.Outputs (plan : Plan) (sources : List String) (files after : FileSystem) : Prop where
  /-- A source sees the outputs of those before it, and its own stays unless a later one has the
  same place. -/
  inOrder : ∀ earlier source later, sources = earlier ++ source :: later →
    ∃ before result, plan.Builds files earlier before ∧
      Source.Gives before plan.game plan.defines source result ∧
      ((∀ other ∈ later, files.place? (plan.output other) ≠ files.place? (plan.output source)) →
        after.Keeps (plan.output source) result.code)
  /-- Sources with different places that read no earlier output are as if each were alone. -/
  apart :
    sources.Pairwise (fun first second =>
      files.place? (plan.output second) ≠ files.place? (plan.output first)) →
    sources.Pairwise (fun first second => ∀ path ∈ Source.reads files second,
      files.place? path ≠ files.place? (plan.output first)) →
    ∀ source ∈ sources, ∃ result,
      Source.Gives files plan.game plan.defines source result ∧
      after.Keeps (plan.output source) result.code
  /-- All other files stay. -/
  others : ∀ location, ¬ plan.Touches files sources location →
    after.top.content? location = files.top.content? location

theorem Plan.Builds.outputs {plan : Plan} {files after : FileSystem} {sources : List String}
    (builds : plan.Builds files sources after)
    (directory : files.isDirectory plan.places.scriptFolder = true) :
    plan.Outputs sources files after where
  inOrder := by
    rintro earlier source later rfl
    exact builds.keeps_of_append_cons directory
  apart := by
    intro distinct blind source among
    obtain ⟨earlier, later, rfl⟩ := List.append_of_mem among
    obtain ⟨before, result, front, gives, kept⟩ := builds.keeps_of_append_cons directory
    obtain ⟨-, behind, -⟩ := List.pairwise_append.mp distinct
    obtain ⟨-, -, ahead⟩ := List.pairwise_append.mp blind
    refine ⟨result, front.gives_of_apart directory ?_ gives, ?_⟩
    · exact fun first member => ahead first member source List.mem_cons_self
    · exact kept fun other member => List.rel_of_pairwise_cons behind member
  others location := (builds.alters directory).content?_eq

/-- What is in the output files after a build without the compiler. -/
theorem outputs_of_build {project : String} {world after : World}
    (ended : (Invocation.build ⟨true, project⟩).main.run world = (.ok 0, after)) :
    ∃ manifest defines sources,
      ((loadManifest project).run world).1 = .ok manifest ∧ manifest.defines = .ok defines ∧
      ((discover project manifest.sourceGlob).run world).1 = .ok sources ∧
      Plan.Outputs ⟨manifest.places project, manifest.game, defines, true⟩ sources world.files
        after.files := by
  obtain ⟨manifest, defines, sources, loaded, defined, found, directory, builds⟩ :=
    builds_of_main ended
  exact ⟨manifest, defines, sources, loaded, defined, found, builds.outputs directory⟩

/-- The output file of a source, what the source gave before a build, and the text that is in the
file after it. -/
def Plan.row (plan : Plan) (files after : FileSystem) (source : String) :
    String × Option String × Option String :=
  (plan.output source, Source.code? files plan.game plan.defines source,
    (after.readText (plan.output source)).toOption)

theorem Plan.map_output (plan : Plan) (files after : FileSystem) (sources : List String) :
    sources.map plan.output = (sources.map (plan.row files after)).map Prod.fst := by
  simp only [List.map_map, Function.comp_def, Plan.row]

/-- The exit code of a build, and the rows of its sources. -/
def survey (project : String) (world : World) :
    Option (Nat × List (String × Option String × Option String)) := do
  let manifest ← ((loadManifest project).run world).1.toOption
  let defines ← manifest.defines.toOption
  let sources ← ((discover project manifest.sourceGlob).run world).1.toOption
  let plan : Plan := ⟨manifest.places project, manifest.game, defines, true⟩
  let ended := (Invocation.build ⟨true, project⟩).main.run world
  return (← ended.1.toOption, sources.map (plan.row world.files ended.2.files))

theorem of_survey {project : String} {world : World} {exit : Nat}
    {rows : List (String × Option String × Option String)}
    (surveyed : survey project world = some (exit, rows)) :
    ∃ manifest defines sources after,
      ((loadManifest project).run world).1 = .ok manifest ∧ manifest.defines = .ok defines ∧
      ((discover project manifest.sourceGlob).run world).1 = .ok sources ∧
      (Invocation.build ⟨true, project⟩).main.run world = (.ok exit, after) ∧
      sources.map (Plan.row ⟨manifest.places project, manifest.game, defines, true⟩ world.files
        after.files) = rows := by
  simp only [survey, Option.bind_eq_bind, Option.bind_eq_some_iff, Option.pure_def,
    Option.some.injEq, Prod.mk.injEq] at surveyed
  obtain ⟨manifest, loaded, defines, defined, sources, found, code, ended, rfl, rows⟩ := surveyed
  exact ⟨manifest, defines, sources, ((Invocation.build ⟨true, project⟩).main.run world).2,
    eq_ok_of_toOption loaded, eq_ok_of_toOption defined, eq_ok_of_toOption found,
    Routine.run_eq_of_toOption ended, rows⟩

end Build

/-- A manifest with the scripts in `out`. -/
def Manifest.sample : String :=
  "projectName: p\nprojectVersion: '1'\nscriptFolderPath: out\nscriptOutputPath: out\n" ++
    "papyrusFlagsPath: f\npapyrusCompilerPath: c\n"

/-- A file with a script. -/
def Node.script (name directives : String) : Node :=
  .file (.text ("\x7b\"directives\":[" ++ directives ++ "],\"script\":\x7b\"name\":\"" ++ name ++
    "\",\"parent\":\"Q\"\x7d\x7d")) false

/-- A project with outputs and sources. -/
def World.project (outputs sources : List (String × Node)) : World where
  files := ⟨.directory [("out", .directory outputs),
    ("project.yaml", .file (.text Manifest.sample) false), ("src", .directory sources)], []⟩
  programs _ _ _ := .error .notFound

/-- The second source includes the output of the first. -/
def World.chained : World :=
  .project [("A.psc", .file (.text "; old\n") false)]
    [("A.pps.json", Node.script "A" ""),
      ("B.pps.json", Node.script "B"
        "\x7b\"kind\":\"include\",\"path\":\"../out/A.psc\"\x7d")]

/-- Two sources have one name. -/
def World.twins : World :=
  .project [] [("a", .directory [("Foo.pps.json", Node.script "A" "")]),
    ("b", .directory [("Foo.pps.json", Node.script "B" "")])]

namespace Build

theorem survey_chained : survey "." World.chained = some (0,
    [("./out/A.psc", some "ScriptName A extends Q\n\n", some "ScriptName A extends Q\n\n"),
      ("./out/B.psc", some "; old\nScriptName B extends Q\n\n",
        some "ScriptName A extends Q\n\nScriptName B extends Q\n\n")]) := by
  decide +kernel

theorem survey_twins : survey "." World.twins = some (0,
    [("./out/Foo.psc", some "ScriptName A extends Q\n\n", some "ScriptName B extends Q\n\n"),
      ("./out/Foo.psc", some "ScriptName B extends Q\n\n",
        some "ScriptName B extends Q\n\n")]) := by
  decide +kernel

/-- An output can be something else than its source gave before the build, and two sources can have
one output. -/
theorem build_loses_output :
    (¬ ∀ (project : String) (world after : World) (manifest : Manifest)
        (defines : List (String × String)) (sources : List String),
      (Invocation.build ⟨true, project⟩).main.run world = (.ok 0, after) →
      ((loadManifest project).run world).1 = .ok manifest → manifest.defines = .ok defines →
      ((discover project manifest.sourceGlob).run world).1 = .ok sources →
      ∀ source ∈ sources, ∃ result,
        Source.Gives world.files manifest.game defines source result ∧
        after.files.readText
          (Plan.output ⟨manifest.places project, manifest.game, defines, true⟩ source) =
            .ok result.code) ∧
    ¬ ∀ (project : String) (world after : World) (manifest : Manifest)
        (defines : List (String × String)) (sources : List String),
      (Invocation.build ⟨true, project⟩).main.run world = (.ok 0, after) →
      ((loadManifest project).run world).1 = .ok manifest → manifest.defines = .ok defines →
      ((discover project manifest.sourceGlob).run world).1 = .ok sources →
      (sources.map
        (Plan.output ⟨manifest.places project, manifest.game, defines, true⟩)).Nodup := by
  constructor
  · intro faithful
    obtain ⟨manifest, defines, sources, after, loaded, defined, found, ended, rows⟩ :=
      of_survey survey_chained
    have kept : ∀ row ∈ sources.map (Plan.row ⟨manifest.places ".", manifest.game, defines, true⟩
        World.chained.files after.files), row.2.1 = row.2.2 := by
      rw [List.forall_mem_map]
      intro source among
      obtain ⟨result, gives, held⟩ :=
        faithful _ _ _ _ _ _ ended loaded defined found source among
      rw [Plan.row, gives.code?_eq, held]
      rfl
    rw [rows] at kept
    revert kept
    decide
  · intro distinct
    obtain ⟨manifest, defines, sources, after, loaded, defined, found, ended, rows⟩ :=
      of_survey survey_twins
    have nodup := distinct _ _ _ _ _ _ ended loaded defined found
    have outputs := Plan.map_output ⟨manifest.places ".", manifest.game, defines, true⟩
      World.twins.files after.files sources
    rw [rows] at outputs
    rw [outputs] at nodup
    exact (List.nodup_cons.mp nodup).1 List.mem_cons_self

theorem outputs_of_build_chained :
    ∃ after, (Invocation.build ⟨true, "."⟩).main.run World.chained = (.ok 0, after) ∧
      ∃ manifest defines sources,
        ((loadManifest ".").run World.chained).1 = .ok manifest ∧
        manifest.defines = .ok defines ∧
        ((discover "." manifest.sourceGlob).run World.chained).1 = .ok sources ∧
        Plan.Outputs ⟨manifest.places ".", manifest.game, defines, true⟩ sources
          World.chained.files after.files := by
  obtain ⟨_, _, _, after, -, -, -, ended, -⟩ := of_survey survey_chained
  exact ⟨after, ended, outputs_of_build ended⟩

end Build

end PapyrusWriter
