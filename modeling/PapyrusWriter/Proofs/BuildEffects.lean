import PapyrusWriter.Proofs.BuildPreparation
import PapyrusWriter.Proofs.Courses
/-!
# What a build does

A build that starts passes over its sources in order. A *pass* transpiles a source, writes its
output and runs the compiler on that, unless the build is without it. The effects of a build are
those of its passes, and nothing else (`course_buildAll`): each pass writes one file and then runs
the compiler once.

The passes end with the sources, or before a source that cannot be read, transpiled or written, or
with one for which the compiler cannot be started (`Plan.Ends`). A compiler that fails ends nothing;
it is counted.
-/

namespace PapyrusWriter

set_option autoImplicit false

theorem Source.course_writeOutput {path text : String} {behaviour : Behaviour}
    {world after : World} {effects : List Effect} {outcome : Except Failure Unit}
    (course : (writeOutput path text).Course behaviour world effects outcome after) :
    (∃ cause, world.write path text = .error cause ∧ effects = [] ∧
        outcome = .error (.outputUnwritable cause) ∧ after = world) ∨
      ∃ files, world.write path text = .ok files ∧ effects = [.wrote path text] ∧
        outcome = .ok () ∧ after = { world with files } := by
  obtain ⟨answer, middle, rest, answers, rfl, taking⟩ := course.request_bind
  cases answers with
  | plain =>
      cases written : world.write path text with
      | error cause =>
          simp only [World.answer, written] at taking ⊢
          cases taking
          exact .inl ⟨cause, rfl, rfl, rfl, rfl⟩
      | ok files =>
          simp only [World.answer, written] at taking ⊢
          cases taking
          exact .inr ⟨files, rfl, rfl, rfl, rfl⟩

namespace Build

/-- What a build did with one source. -/
structure Pass where
  source : String
  code : String
  /-- How the compiler ended, or why it could not be started; nothing without the compiler. -/
  compiled : Option (Except SystemError ProgramRun)

namespace Pass

/-- The compiler could be started, or was not asked for. -/
def Started (pass : Pass) : Prop := ∀ cause, pass.compiled ≠ some (.error cause)

/-- The compiler was started and failed. -/
def failed (pass : Pass) : Bool :=
  match pass.compiled with
  | some (.ok run) => !run.succeeded
  | _ => false

/-- What a pass tells the build: whether to count a failure, or why to stop. -/
def verdict (pass : Pass) : Except Failure Bool :=
  match pass.compiled with
  | some (.error cause) => .error (.compilerUnavailable cause)
  | some (.ok run) => .ok run.succeeded
  | none => .ok true

theorem of_verdict_ok {pass : Pass} {compiled : Bool} (told : pass.verdict = .ok compiled) :
    pass.Started ∧ pass.failed = !compiled := by
  obtain ⟨source, code, _ | cause | run⟩ := pass
  · cases told
    refine ⟨?_, rfl⟩
    intro cause same
    cases same
  · cases told
  · cases told
    refine ⟨?_, rfl⟩
    intro cause same
    cases same

theorem of_verdict_error {pass : Pass} {failure : Failure} (told : pass.verdict = .error failure) :
    ∃ cause, pass.compiled = some (.error cause) ∧ failure = .compilerUnavailable cause := by
  obtain ⟨source, code, _ | cause | run⟩ := pass
  · cases told
  · cases told
    exact ⟨cause, rfl, rfl⟩
  · cases told

end Pass

/-- The effects of a pass: a file is written, then the compiler is run on it. -/
def Plan.effects (plan : Plan) (pass : Pass) : List Effect :=
  .wrote (plan.output pass.source) pass.code ::
    (pass.compiled.map fun outcome => Effect.ran plan.places.compiler
      (compilerArguments plan.places (plan.output pass.source)) outcome).toList

/-- What the compiler comes to on a script. -/
inductive Plan.Compiles (plan : Plan) (behaviour : Behaviour) (script : String)
    (files : FileSystem) : Option (Except SystemError ProgramRun) → FileSystem → Prop
  | skipped (skips : plan.noCompile = true) : Plan.Compiles plan behaviour script files none files
  | started {run : ProgramRun} {after : FileSystem} (compiles : plan.noCompile = false)
      (does : behaviour files plan.places.compiler (compilerArguments plan.places script)
        (.ok (run, after))) :
      Plan.Compiles plan behaviour script files (some (.ok run)) after
  | refused {cause : SystemError} (compiles : plan.noCompile = false)
      (does : behaviour files plan.places.compiler (compilerArguments plan.places script)
        (.error cause)) :
      Plan.Compiles plan behaviour script files (some (.error cause)) files

/-- A pass over a source, from the files before it to those after it. -/
structure Plan.Step (plan : Plan) (behaviour : Behaviour) (files : FileSystem) (pass : Pass)
    (after : FileSystem) : Prop where
  gives : ∃ result, Source.Gives files plan.game plan.defines pass.source result ∧
    pass.code = result.code
  works : ∃ next, files.write (plan.output pass.source) (.text pass.code) = .ok next ∧
    plan.Compiles behaviour (plan.output pass.source) next pass.compiled after

/-- Passes, each with the files that those before it left. -/
inductive Plan.Passes (plan : Plan) (behaviour : Behaviour) :
    FileSystem → List Pass → FileSystem → Prop
  | nil (files : FileSystem) : Plan.Passes plan behaviour files [] files
  | cons {files middle after : FileSystem} {pass : Pass} {rest : List Pass}
      (step : plan.Step behaviour files pass middle)
      (later : Plan.Passes plan behaviour middle rest after) :
      Plan.Passes plan behaviour files (pass :: rest) after

/-- Why a source has no output with the files as they are: the host may also refuse to read it, or
what it includes, or to write the output. -/
inductive Plan.Stops (plan : Plan) (storage : Storage) (source : String) : Failure → Prop
  | unreadable {cause : SystemError} (unread : storage.readText source = .error cause) :
      Plan.Stops plan storage source (.inputUnreadable cause)
  | malformed {text : String} {found : Option SyntaxTree} {diagnostics : List Diagnostic}
      (held : storage.readText source = .ok text)
      (parsed : SyntaxTree.read text = (found, diagnostics))
      (faulty : ¬ (found.isSome ∧ diagnostics = [])) :
      Plan.Stops plan storage source (.syntaxErrors source diagnostics.length
        ((diagnostics.head?.map Diagnostic.message).getD ""))
  | untranspiled {text : String} {tree : SyntaxTree} {error : TranspileError}
      (held : storage.readText source = .ok text) (parsed : SyntaxTree.read text = (some tree, []))
      (refused : (tree.transpile storage.readText
        ⟨plan.game, Path.directory source, plan.defines⟩).result = .error error) :
      Plan.Stops plan storage source (.transpile error)
  | unwritten {result : Transpiled} {cause : SystemError}
      (gives : Source.Gives storage.files plan.game plan.defines source result)
      (refused : storage.write (plan.output source) result.code = .error cause) :
      Plan.Stops plan storage source (.outputUnwritable cause)

/-- How passes end, with the sources that are left and the number of scripts that did not compile.
-/
inductive Plan.Ends (plan : Plan) (after : Storage) :
    List Pass → List String → Except Failure Nat → Prop
  | complete {passes : List Pass} (started : ∀ pass ∈ passes, pass.Started) :
      Plan.Ends plan after passes [] (.ok (passes.countP Pass.failed))
  | stopped {passes : List Pass} {source : String} {rest : List String} {failure : Failure}
      (started : ∀ pass ∈ passes, pass.Started) (stops : plan.Stops after source failure) :
      Plan.Ends plan after passes (source :: rest) (.error failure)
  | unstarted {passes : List Pass} {last : Pass} {rest : List String} {cause : SystemError}
      (started : ∀ pass ∈ passes, pass.Started) (refused : last.compiled = some (.error cause)) :
      Plan.Ends plan after (passes ++ [last]) rest (.error (.compilerUnavailable cause))

theorem Plan.Ends.cons {plan : Plan} {after : Storage} {pass : Pass} {passes : List Pass}
    {rest : List String} {outcome : Except Failure Nat} (ends : plan.Ends after passes rest outcome)
    (started : pass.Started) :
    plan.Ends after (pass :: passes) rest
      (outcome.map fun failed => if pass.failed then failed + 1 else failed) := by
  have all : ∀ {front : List Pass}, (∀ other ∈ front, other.Started) →
      ∀ other ∈ pass :: front, other.Started :=
    fun others => List.forall_mem_cons.mpr ⟨started, others⟩
  cases ends with
  | complete others =>
      have count : (if pass.failed then passes.countP Pass.failed + 1
          else passes.countP Pass.failed) = (pass :: passes).countP Pass.failed := by
        rw [List.countP_cons]
        split <;> rfl
      rw [Except.map, count]
      exact .complete (all others)
  | stopped others stops => exact .stopped (all others) stops
  | unstarted others refused => exact .unstarted (all others) refused

section Courses

variable {plan : Plan} {behaviour : Behaviour} {world after : World} {effects : List Effect}

theorem course_compile {script : String} {outcome : Except Failure Bool}
    (compiles : plan.noCompile = false)
    (course : (compile plan.places script).Course behaviour world effects outcome after) :
    ∃ answer, effects = [.ran plan.places.compiler (compilerArguments plan.places script) answer] ∧
      (∀ source code, outcome = Pass.verdict ⟨source, code, some answer⟩) ∧
      plan.Compiles behaviour script world.files (some answer) after.files := by
  obtain ⟨_, ran, -, -⟩ | ⟨_, _, reported, asking⟩ := course.passive_bind (.request rfl)
  · cases ran
  cases reported
  obtain ⟨answer, middle, rest, answers, rfl, taking⟩ := asking.request_bind
  cases answers with
  | plain plain => cases plain
  | refused does =>
      cases taking
      exact ⟨_, rfl, fun _ _ => rfl, .refused compiles does⟩
  | @started _ _ run files does =>
      obtain ⟨_, ran, -, -⟩ | ⟨_, _, ran, reporting⟩ := taking.passive_bind (.orFail _ _)
      · cases ran
      cases ran
      have reports : ((compilerEvents run).forM Routine.report : Command Unit).run
          { world.logged [.compiling script] with files } = (.ok (), _) :=
        Routine.run_forM_report id _ _
      obtain ⟨_, ran, -, -⟩ | ⟨_, _, ran, ending⟩ := reporting.passive_bind (.forM_report id _)
      · cases reports.symm.trans ran
      · cases reports.symm.trans ran
        cases ending
        exact ⟨.ok run, rfl, fun _ _ => rfl, .started compiles does⟩

/-- Loading and transpiling a source has no effects, and comes to what the files give. -/
theorem course_transpile {α : Type} {source : String} {next : Transpiled → Command α}
    {outcome : Except Failure α}
    (course : (Source.load source >>= fun tree =>
      Source.transpile ⟨plan.game, Path.directory source, plan.defines⟩ tree >>= next).Course
        behaviour world effects outcome after) :
    (∃ failure, plan.Stops world.toStorage source failure ∧ outcome = .error failure ∧
        effects = [] ∧ after.toStorage = world.toStorage) ∨
      ∃ result middle, Source.Gives world.files plan.game plan.defines source result ∧
        middle.toStorage = world.toStorage ∧
        (next result).Course behaviour middle effects outcome after := by
  obtain ⟨failure, ran, rfl, rfl⟩ | ⟨tree, _, loaded, transpiling⟩ :=
    course.passive_bind (Source.passive_load source)
  · obtain ⟨events, rfl⟩ := (Source.passive_load source).after_eq ran
    obtain ⟨cause, unread, rfl⟩ | ⟨text, found, diagnostics, held, parsed, faulty, rfl⟩ :=
      Source.load_eq_error ran
    · exact .inl ⟨_, .unreadable unread, rfl, rfl, rfl⟩
    · exact .inl ⟨_, .malformed held parsed faulty, rfl, rfl, rfl⟩
  obtain ⟨failure, ran, rfl, rfl⟩ | ⟨result, middle, transpiled, rest⟩ :=
    transpiling.passive_bind (Source.passive_transpile _ _)
  · obtain ⟨text, held, parsed⟩ := Source.load_eq_ok loaded
    obtain ⟨events, rfl⟩ := (Source.passive_load source).after_eq loaded
    obtain ⟨error, refused, rfl⟩ := Source.transpile_eq_error ran
    obtain ⟨more, rfl⟩ := (Source.passive_transpile _ _).after_eq ran
    exact .inl ⟨_, .untranspiled held parsed refused, rfl, rfl, rfl⟩
  · obtain ⟨gives, same⟩ := Source.gives_of_run loaded transpiled
    exact .inr ⟨result, middle, gives, same, rest⟩

/-- A step of a build: a source has no output and nothing is done, or there is a pass over it. -/
theorem course_buildSource {source : String} {outcome : Except Failure Bool}
    (course : (buildSource plan source).Course behaviour world effects outcome after) :
    (∃ failure, plan.Stops world.toStorage source failure ∧ outcome = .error failure ∧
        effects = [] ∧ after.toStorage = world.toStorage) ∨
      ∃ pass : Pass, pass.source = source ∧ plan.Step behaviour world.files pass after.files ∧
        outcome = pass.verdict ∧ effects = plan.effects pass := by
  obtain ⟨_, ran, -, -⟩ | ⟨_, _, reported, loading⟩ := course.passive_bind (.request rfl)
  · cases ran
  cases reported
  obtain stops | ⟨result, middle, gives, same, writing⟩ := course_transpile loading
  · exact .inl stops
  replace gives : Source.Gives world.files plan.game plan.defines source result := gives
  replace same : middle.toStorage = world.toStorage := same
  obtain ⟨failure, failed, rfl⟩ | ⟨_, _, former, latter, written, reporting, rfl⟩ :=
    writing.bind_cases
  · obtain ⟨cause, refused, rfl, outcome, rfl⟩ | ⟨_, _, _, outcome, -⟩ :=
      Source.course_writeOutput failed
    · cases outcome
      rw [same] at refused
      exact .inl ⟨_, .unwritten gives refused, rfl, rfl, same⟩
    · cases outcome
  obtain ⟨_, _, _, outcome, -⟩ | ⟨files, wrote, rfl, -, rfl⟩ :=
    Source.course_writeOutput written
  · cases outcome
  rw [same] at wrote
  replace wrote := Storage.of_access wrote
  obtain ⟨_, ran, -, -⟩ | ⟨_, _, reported, compiling⟩ := reporting.passive_bind (.request rfl)
  · cases ran
  cases reported
  right
  cases skips : plan.noCompile with
  | true =>
      rw [if_pos skips] at compiling
      cases compiling
      exact ⟨⟨source, result.code, none⟩, rfl, ⟨⟨result, gives, rfl⟩, files, wrote, .skipped skips⟩,
        rfl, rfl⟩
  | false =>
      rw [if_neg (by rw [skips]; exact Bool.false_ne_true)] at compiling
      obtain ⟨answer, rfl, told, compiles⟩ := course_compile skips compiling
      exact ⟨⟨source, result.code, some answer⟩, rfl,
        ⟨⟨result, gives, rfl⟩, files, wrote, compiles⟩, told _ _, rfl⟩

/-- The passes of a build: their effects are all that is done, and they end in one of three ways. -/
theorem course_buildAll {sources : List String} {outcome : Except Failure Nat}
    (course : (buildAll plan sources).Course behaviour world effects outcome after) :
    ∃ passes rest, sources = passes.map Pass.source ++ rest ∧
      effects = passes.flatMap plan.effects ∧
      plan.Passes behaviour world.files passes after.files ∧
      plan.Ends after.toStorage passes rest outcome := by
  induction sources generalizing world effects outcome with
  | nil =>
      cases course
      exact ⟨[], [], rfl, rfl, .nil _, .complete (by simp)⟩
  | cons source others ih =>
      obtain ⟨failure, failed, rfl⟩ | ⟨compiled, middle, former, latter, built, going, rfl⟩ :=
        course.bind_cases
      · obtain ⟨_, stops, same, rfl, unchanged⟩ | ⟨pass, rfl, step, told, rfl⟩ :=
          course_buildSource failed
        · cases same
          rw [← unchanged] at stops ⊢
          exact ⟨[], source :: others, rfl, rfl, .nil _, .stopped (by simp) stops⟩
        · obtain ⟨cause, refused, rfl⟩ := Pass.of_verdict_error told.symm
          have none : ∀ other ∈ ([] : List Pass), other.Started := by simp
          exact ⟨[pass], others, rfl, by simp, .cons step (.nil _), .unstarted none refused⟩
      · obtain ⟨_, _, same, _⟩ | ⟨pass, rfl, step, told, rfl⟩ := course_buildSource built
        · cases same
        obtain ⟨started, counted⟩ := Pass.of_verdict_ok told.symm
        obtain ⟨failure, failed, rfl⟩ | ⟨count, _, rest, _, remaining, ending, rfl⟩ :=
          going.bind_cases
        · obtain ⟨passes, rest, rfl, rfl, later, ends⟩ := ih failed
          exact ⟨pass :: passes, rest, rfl, rfl, .cons step later, ends.cons started⟩
        · cases ending
          obtain ⟨passes, left, rfl, rfl, later, ends⟩ := ih remaining
          have more := ends.cons started
          rw [counted] at more
          refine ⟨pass :: passes, left, rfl, by simp, .cons step later, ?_⟩
          cases compiled <;> exact more

end Courses

/-! ## The files after a build -/

/-- A change at some locations that leaves the outputs of sources where they are. -/
structure Plan.Spares (plan : Plan) (sources : List String) (touched : Location → Prop)
    (files after : FileSystem) : Prop where
  outputs : ∀ source ∈ sources,
    after.place? (plan.output source) = files.place? (plan.output source)
  folder : files.isDirectory plan.places.scriptFolder = true →
    after.isDirectory plan.places.scriptFolder = true
  elsewhere : ∀ location, ¬ touched location →
    Node.SameKind (files.top.get? location) (after.top.get? location)

/-- Programs that make such changes only, at locations of their own. -/
def Plan.SparedBy (plan : Plan) (sources : List String) (own : Location → Prop)
    (behaviour : Behaviour) : Prop :=
  ∀ files program arguments run after,
    behaviour files program arguments (.ok (run, after)) → plan.Spares sources own files after

namespace Plan.Spares

variable {plan : Plan} {sources : List String} {touched others : Location → Prop}
  {files middle after : FileSystem} {source : String}

theorem refl (plan : Plan) (sources : List String) (touched : Location → Prop)
    (files : FileSystem) : plan.Spares sources touched files files :=
  ⟨fun _ _ => rfl, id, fun _ _ => .inl rfl⟩

theorem of_alters (alters : files.Alters touched after) :
    plan.Spares sources touched files after :=
  ⟨fun _ _ => alters.places _, alters.isDirectory, alters.elsewhere⟩

theorem trans (former : plan.Spares sources touched files middle)
    (latter : plan.Spares sources others middle after) :
    plan.Spares sources (fun location => touched location ∨ others location) files after where
  outputs source among := (latter.outputs source among).trans (former.outputs source among)
  folder there := latter.folder (former.folder there)
  elsewhere location untouched :=
    (former.elsewhere location fun here => untouched (.inl here)).trans
      (latter.elsewhere location fun here => untouched (.inr here))

theorem mono (spares : plan.Spares sources touched files after)
    (wider : ∀ location, touched location → others location) :
    plan.Spares sources others files after :=
  ⟨spares.outputs, spares.folder, fun location untouched =>
    spares.elsewhere location fun here => untouched (wider location here)⟩

theorem keeps (spares : plan.Spares sources touched files after) (among : source ∈ sources)
    (untouched : ∀ location, files.place? (plan.output source) = some location →
      ¬ touched location)
    {code : String} (kept : files.Keeps (plan.output source) code) :
    after.Keeps (plan.output source) code :=
  kept.of_same (spares.outputs source among) fun location led =>
    spares.elsewhere location (untouched location led)

end Plan.Spares

section Files

variable {plan : Plan} {sources : List String} {behaviour : Behaviour} {own : Location → Prop}
  {files after : FileSystem} {pass : Pass} {passes : List Pass}

theorem Plan.Compiles.isSome_eq {script : String}
    {compiled : Option (Except SystemError ProgramRun)}
    (compiles : plan.Compiles behaviour script files compiled after) :
    compiled.isSome = !plan.noCompile := by
  cases compiles with
  | skipped skips => simp [skips]
  | started compiles => simp [compiles]
  | refused compiles => simp [compiles]

theorem Plan.Compiles.spares {script : String} {compiled : Option (Except SystemError ProgramRun)}
    (compiles : plan.Compiles behaviour script files compiled after)
    (spared : plan.SparedBy sources own behaviour) : plan.Spares sources own files after := by
  cases compiles with
  | skipped => exact .refl _ _ _ _
  | started _ does => exact spared _ _ _ _ _ does
  | refused => exact .refl _ _ _ _

/-- A pass changes its output, beside what the compiler changes. -/
theorem Plan.Step.spares (step : plan.Step behaviour files pass after)
    (spared : plan.SparedBy sources own behaviour)
    (directory : files.isDirectory plan.places.scriptFolder = true) :
    plan.Spares sources (fun location =>
      files.place? (plan.output pass.source) = some location ∨ own location) files after := by
  obtain ⟨next, written, compiles⟩ := step.works
  obtain ⟨wrote, -⟩ := FileSystem.alters_of_write directory written
  exact (Plan.Spares.of_alters wrote).trans (compiles.spares spared)

namespace Plan.Passes

theorem compiled_isSome (run : plan.Passes behaviour files passes after) :
    ∀ pass ∈ passes, pass.compiled.isSome = !plan.noCompile := by
  induction run with
  | nil => simp
  | cons step later ih =>
      refine List.forall_mem_cons.mpr ⟨?_, ih⟩
      obtain ⟨_, _, compiles⟩ := step.works
      exact compiles.isSome_eq

theorem spares (run : plan.Passes behaviour files passes after)
    (spared : plan.SparedBy sources own behaviour)
    (directory : files.isDirectory plan.places.scriptFolder = true)
    (among : ∀ pass ∈ passes, pass.source ∈ sources) :
    plan.Spares sources (fun location =>
      plan.Touches files (passes.map Pass.source) location ∨ own location) files after := by
  induction run with
  | nil => exact .refl _ _ _ _
  | cons step later ih =>
      have first := step.spares spared directory
      obtain ⟨-, others⟩ := List.forall_mem_cons.mp among
      refine (first.trans (ih (first.folder directory) others)).mono fun location touched => ?_
      obtain (here | owned) | (⟨source, member, there⟩ | owned) := touched
      · exact .inl ⟨_, List.mem_cons_self, here⟩
      · exact .inr owned
      · obtain ⟨other, listed, rfl⟩ := List.mem_map.mp member
        have before := (first.outputs _ (others other listed)).symm.trans there
        exact .inl ⟨_, List.mem_cons_of_mem _ member, before⟩
      · exact .inr owned

theorem append_cons {front back : List Pass}
    (run : plan.Passes behaviour files (front ++ pass :: back) after) :
    ∃ before middle, plan.Passes behaviour files front before ∧
      plan.Step behaviour before pass middle ∧ plan.Passes behaviour middle back after := by
  induction front generalizing files with
  | nil =>
      cases run with
      | cons step later => exact ⟨files, _, .nil files, step, later⟩
  | cons first rest ih =>
      cases run with
      | cons step later =>
          obtain ⟨before, middle, earlier, here, others⟩ := ih later
          exact ⟨before, middle, .cons step earlier, here, others⟩

/-- An output stays if neither the compiler nor a later pass changes it. -/
theorem keeps {front back : List Pass}
    (run : plan.Passes behaviour files (front ++ pass :: back) after)
    (spared : plan.SparedBy sources own behaviour)
    (directory : files.isDirectory plan.places.scriptFolder = true)
    (among : ∀ other ∈ front ++ pass :: back, other.source ∈ sources)
    (foreign : ∀ location, files.place? (plan.output pass.source) = some location →
      ¬ own location)
    (apart : ∀ other ∈ back,
      files.place? (plan.output other.source) ≠ files.place? (plan.output pass.source)) :
    after.Keeps (plan.output pass.source) pass.code := by
  obtain ⟨before, middle, earlier, step, later⟩ := run.append_cons
  obtain ⟨inFront, inBack⟩ := List.forall_mem_append.mp among
  obtain ⟨here, inBack⟩ := List.forall_mem_cons.mp inBack
  have former := earlier.spares spared directory inFront
  obtain ⟨next, written, compiles⟩ := step.works
  obtain ⟨wrote, kept⟩ := FileSystem.alters_of_write (former.folder directory) written
  have reached : plan.Spares sources _ files next := former.trans (.of_alters wrote)
  have compiled := compiles.spares spared
  have passed := reached.trans compiled
  -- The places are those before the build, whatever was written until then.
  have still : middle.Keeps (plan.output pass.source) pass.code :=
    compiled.keeps here
      (fun location led => foreign location ((reached.outputs _ here).symm.trans led)) kept
  refine (later.spares spared (passed.folder directory) inBack).keeps here ?_ still
  rintro location led (⟨source, listed, same⟩ | owned)
  · obtain ⟨other, member, rfl⟩ := List.mem_map.mp listed
    rw [passed.outputs _ here] at led
    rw [passed.outputs _ (inBack other member)] at same
    exact apart other member (same.trans led.symm)
  · exact foreign location ((passed.outputs _ here).symm.trans led) owned

end Plan.Passes

/-- What passes leave if the compiler keeps to its own locations: other files than theirs and the
compiler's stay, and their outputs are there unless later ones have the same place. -/
structure Plan.Leaves (plan : Plan) (sources : List String) (own : Location → Prop)
    (passes : List Pass) (files after : FileSystem) : Prop where
  changes : plan.Spares sources (fun location =>
    plan.Touches files (passes.map Pass.source) location ∨ own location) files after
  keeps : ∀ front pass back, passes = front ++ pass :: back →
    (∀ location, files.place? (plan.output pass.source) = some location → ¬ own location) →
    (∀ other ∈ back,
      files.place? (plan.output other.source) ≠ files.place? (plan.output pass.source)) →
    after.Keeps (plan.output pass.source) pass.code

theorem Plan.Passes.leaves (run : plan.Passes behaviour files passes after)
    (spared : plan.SparedBy sources own behaviour)
    (directory : files.isDirectory plan.places.scriptFolder = true)
    (among : ∀ pass ∈ passes, pass.source ∈ sources) :
    plan.Leaves sources own passes files after where
  changes := run.spares spared directory among
  keeps := by
    rintro front pass back rfl
    exact run.keeps spared directory among

end Files

end Build

open Build

namespace BuildArguments

/-- What a build comes to after its passes. -/
def verdict (total : Nat) (ended : Except Failure Nat) : Except Failure Unit := do
  let failed ← ended
  if 0 < failed then .error (.compilationFailed failed total) else .ok ()

theorem course_conclusion {plan : Plan} {sources : List String} {behaviour : Behaviour}
    {world after : World} {effects : List Effect} {outcome : Except Failure Unit}
    (course : (conclusion plan sources).Course behaviour world effects outcome after) :
    ∃ passes rest ended, sources = passes.map Pass.source ++ rest ∧
      effects = passes.flatMap plan.effects ∧
      plan.Passes behaviour world.files passes after.files ∧
      plan.Ends after.toStorage passes rest ended ∧ outcome = verdict sources.length ended := by
  obtain ⟨failure, failed, rfl⟩ | ⟨failed, middle, former, latter, built, ending, rfl⟩ :=
    course.bind_cases
  · obtain ⟨passes, rest, all, done, run, ends⟩ := course_buildAll failed
    exact ⟨passes, rest, _, all, done, run, ends, rfl⟩
  · obtain ⟨passes, rest, all, rfl, run, ends⟩ := course_buildAll built
    refine ⟨passes, rest, .ok failed, all, ?_⟩
    by_cases uncompiled : 0 < failed
    · rw [if_pos uncompiled] at ending
      cases ending
      exact ⟨List.append_nil _, run, ends, (if_pos uncompiled).symm⟩
    · rw [if_neg uncompiled] at ending
      cases ending with
      | ask answers done =>
          cases answers
          cases done
          exact ⟨List.append_nil _, run, ends, (if_neg uncompiled).symm⟩

/-- The effects and the outcome of a build, whatever the compiler does and the host refuses. A build
that does not start does nothing. One that starts passes over its sources in order, and has the
effects of its passes; it stops at a source without output or at a compiler that cannot be started,
and else it succeeds or counts the scripts that did not compile. -/
theorem run_in_passes (arguments : BuildArguments) (world : World) :
    arguments.run.Course world.programs.behaviour world (arguments.run.effects world)
      (arguments.run.run world).1 (arguments.run.run world).2 ∧
    ∀ (behaviour : Behaviour) (effects : List Effect) (outcome : Except Failure Unit)
      (after : World), arguments.run.Course behaviour world effects outcome after →
      (∀ failure, arguments.prepare world.toStorage = .error failure →
        outcome = .error failure ∧ effects = [] ∧ after.files = world.files) ∧
      ∀ plan sources, arguments.prepare world.toStorage = .ok (plan, sources) →
        ∃ passes rest ended,
          sources = passes.map Pass.source ++ rest ∧
          effects = passes.flatMap plan.effects ∧
          (∀ pass ∈ passes, pass.compiled.isSome = !arguments.noCompile) ∧
          plan.Passes behaviour world.files passes after.files ∧
          plan.Ends ⟨after.files, world.refusals⟩ passes rest ended ∧
          outcome = verdict sources.length ended ∧
          ∀ own, plan.SparedBy sources own behaviour →
            plan.Leaves sources own passes world.files after.files := by
  refine ⟨Routine.course_run _ _, fun behaviour effects outcome after course => ?_⟩
  have left : after.toStorage = ⟨after.files, world.refusals⟩ := by rw [← course.refusals_eq]
  rw [run_eq] at course
  obtain ⟨events, computed⟩ := arguments.computes_preparation world.toStorage world rfl
  obtain ⟨failure, ran, rfl, rfl⟩ | ⟨⟨plan, sources⟩, _, ran, concluding⟩ :=
    course.passive_bind arguments.passive_preparation
  · rw [computed, Prod.mk.injEq] at ran
    obtain ⟨prepared, rfl⟩ := ran
    rw [prepared]
    constructor
    · rintro _ ⟨⟩
      exact ⟨rfl, rfl, rfl⟩
    · rintro _ _ ⟨⟩
  · rw [computed, Prod.mk.injEq] at ran
    obtain ⟨prepared, rfl⟩ := ran
    obtain ⟨compiles, directory⟩ := of_prepare prepared
    dsimp only at concluding
    rw [prepared]
    constructor
    · rintro _ ⟨⟩
    · rintro _ _ ⟨⟩
      obtain ⟨passes, rest, ended, all, done, run, ends, told⟩ := course_conclusion concluding
      have asked := run.compiled_isSome
      rw [compiles] at asked
      have among : ∀ pass ∈ passes, pass.source ∈ sources := by
        intro pass member
        rw [all]
        exact List.mem_append_left _ (List.mem_map_of_mem member)
      exact ⟨passes, rest, ended, all, done, asked, run, left ▸ ends, told,
        fun own spared => run.leaves spared directory among⟩

/-- A project with two scripts and a compiler that fails on the second. -/
def workshop : World where
  files := ⟨.directory [("c", .file (.text "") true), ("f", .file (.text "") false),
    ("out", .directory []), ("project.yaml", .file (.text Manifest.sample) false),
    ("src", .directory [("A.pps.json", Node.script "A" ""), ("B.pps.json", Node.script "B" "")])],
    []⟩
  programs files _ arguments := .ok (⟨arguments.head? ≠ some "./out/B.psc", [], []⟩, files)

/-- The build of the current directory, with the compiler. -/
def inWorkshop : BuildArguments := ⟨false, "."⟩

/-- The numbers that a build names when scripts did not compile. -/
def uncompiled? : Except Failure Unit → Option (Nat × Nat)
  | .error (.compilationFailed failed total) => some (failed, total)
  | _ => none

theorem run_in_passes_workshop :
    ∃ plan sources passes, inWorkshop.prepare workshop.toStorage = .ok (plan, sources) ∧
      passes.map Pass.source = sources ∧ sources.length = 2 ∧ passes.countP Pass.failed = 1 ∧
      inWorkshop.run.effects workshop = passes.flatMap plan.effects ∧
      plan.Leaves sources (fun _ => False) passes workshop.files
        (inWorkshop.run.run workshop).2.files := by
  obtain ⟨course, exactly⟩ := run_in_passes inWorkshop workshop
  have starts : (inWorkshop.prepare workshop.toStorage).toOption.isSome = true := by decide +kernel
  obtain ⟨⟨plan, sources⟩, known⟩ := Option.isSome_iff_exists.mp starts
  have prepared := eq_ok_of_toOption known
  have counted : uncompiled? (inWorkshop.run.run workshop).1 = some (1, 2) := by decide +kernel
  obtain ⟨passes, rest, ended, all, done, -, -, ends, told, left⟩ :=
    (exactly _ _ _ _ course).2 plan sources prepared
  have spared : plan.SparedBy sources (fun _ => False) workshop.programs.behaviour := by
    rintro files program arguments run after ⟨⟩
    exact .refl _ _ _ _
  rw [told] at counted
  cases ends with
  | stopped _ stops => cases stops <;> cases counted
  | unstarted => cases counted
  | complete =>
      by_cases any : 0 < passes.countP Pass.failed
      · have failed : verdict sources.length (.ok (passes.countP Pass.failed)) =
            .error (.compilationFailed (passes.countP Pass.failed) sources.length) := if_pos any
        simp only [failed, uncompiled?, Option.some.injEq, Prod.mk.injEq] at counted
        obtain ⟨one, two⟩ := counted
        rw [List.append_nil] at all
        exact ⟨plan, sources, passes, prepared, all.symm, two, one, done, left _ spared⟩
      · have fine : verdict sources.length (.ok (passes.countP Pass.failed)) = .ok () := if_neg any
        rw [fine] at counted
        cases counted

end BuildArguments

end PapyrusWriter
