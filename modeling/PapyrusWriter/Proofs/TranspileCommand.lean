import PapyrusWriter.Command.TranspileFile
import PapyrusWriter.Proofs.FileWrites
import PapyrusWriter.Proofs.SourceFiles
/-!
# The command `transpile` is all or nothing

Both ways to give the result out, printing it and writing it to a file, come after everything else.
Until then a run only looks at files and reports, so a run that fails leaves the files and the
output as they are.
-/

namespace PapyrusWriter

set_option autoImplicit false

namespace TranspileArguments

variable {arguments : TranspileArguments} {world : World}

/-- The file that a result is written to. -/
def outputFile (arguments : TranspileArguments) (result : Transpiled) : String :=
  match result.outputFileName? with
  | some name => Path.join (Path.directory arguments.outputPath) (Text.stripQuotes name)
  | none => arguments.outputPath

/-- Writes a result to its file. -/
def deliver (arguments : TranspileArguments) (result : Transpiled) : Command Unit := do
  let path ← target (Path.directory arguments.outputPath) arguments.outputPath result
  Source.writeOutput path result.code
  Routine.report (.transpiledFile arguments.input path)
  Routine.report .done

/-- Prints a result or writes it to its file. -/
def giveOut (arguments : TranspileArguments) (result : Transpiled) : Command Unit :=
  if arguments.toStdout then Routine.request (.print result.code) else arguments.deliver result

theorem passive_result (arguments : TranspileArguments) : arguments.result.Passive :=
  .bind (.request rfl) fun _ => .bind (Source.passive_load _) fun _ => Source.passive_transpile _ _

/-- The first thing that a run finds missing, before it reads anything. -/
def missing? (arguments : TranspileArguments) (files : FileSystem) : Option Failure :=
  let directory := Path.directory arguments.outputPath
  if !files.isFile arguments.input then some (.inputNotFound arguments.input)
  else if !arguments.toStdout && !files.isDirectory directory then
    some (.outputDirectoryMissing directory)
  else none

theorem giveOut_of_toStdout (printing : arguments.toStdout = true) :
    arguments.giveOut = fun result => Routine.request (.print result.code) :=
  funext fun _ => if_pos printing

theorem giveOut_of_not_toStdout (writing : ¬ arguments.toStdout = true) :
    arguments.giveOut = arguments.deliver :=
  funext fun _ => if_neg writing

/-- The stages of a run. -/
theorem run_eq (arguments : TranspileArguments) :
    arguments.run =
      (Routine.request (.isFile arguments.input) >>= fun found =>
        if found then
          if arguments.toStdout then arguments.result >>= arguments.giveOut
          else
            Routine.request (.isDirectory (Path.directory arguments.outputPath)) >>= fun there =>
              if there then arguments.result >>= arguments.giveOut
              else Routine.fail (.outputDirectoryMissing (Path.directory arguments.outputPath))
        else Routine.fail (.inputNotFound arguments.input)) := by
  unfold run
  refine congrArg _ (funext fun found => ?_)
  cases found with
  | false => rfl
  | true =>
      by_cases printing : arguments.toStdout = true
      · rw [giveOut_of_toStdout printing]
        simp only [if_pos printing, if_true]
      · rw [giveOut_of_not_toStdout printing]
        simp only [if_neg printing, if_true]
        refine congrArg _ (funext fun there => ?_)
        cases there <;> rfl

/-- A run finds something missing, or it transpiles and gives out the result. -/
theorem runsLike_stages (arguments : TranspileArguments) (world : World) :
    arguments.run.RunsLike
      ((arguments.missing? world.files).elim (arguments.result >>= arguments.giveOut) Routine.fail)
      world := by
  rw [run_eq]
  refine (Routine.runsLike_of_answer rfl rfl).trans ?_
  simp only [missing?]
  cases world.files.isFile arguments.input with
  | false => exact ⟨rfl, rfl⟩
  | true =>
      cases arguments.toStdout with
      | true => exact ⟨rfl, rfl⟩
      | false =>
          refine (Routine.runsLike_of_answer rfl rfl).trans ?_
          cases world.files.isDirectory (Path.directory arguments.outputPath) <;> exact ⟨rfl, rfl⟩

theorem gives_of_result {result : Transpiled} {after : World}
    (ran : arguments.result.run world = (.ok result, after)) :
    Source.Gives world.files arguments.game [] arguments.input result := by
  obtain ⟨_, _, reported, loading⟩ := Routine.run_bind_eq_ok ran
  cases reported
  obtain ⟨tree, middle, loaded, transpiled⟩ := Routine.run_bind_eq_ok loading
  have gives := (Source.gives_of_run loaded transpiled).1
  exact gives

theorem run_target (arguments : TranspileArguments) (result : Transpiled) (world : World) :
    ∃ events, (target (Path.directory arguments.outputPath) arguments.outputPath result).run world =
        (.ok (arguments.outputFile result), world.logged events) ∧
      (target (Path.directory arguments.outputPath) arguments.outputPath result).writes world =
        [] := by
  unfold target outputFile
  cases result.outputFileName? with
  | none => exact ⟨[], by rw [World.logged_nil]; rfl, rfl⟩
  | some name => exact ⟨_, rfl, rfl⟩

/-- Writing a result asks for one file, and changes nothing unless that works. -/
theorem run_deliver (arguments : TranspileArguments) (result : Transpiled) (world : World) :
    (arguments.deliver result).writes world = [(arguments.outputFile result, result.code)] ∧
      ((∃ cause events, (arguments.deliver result).run world =
          (.error (.outputUnwritable cause), world.logged events)) ∨
        ∃ after, (arguments.deliver result).run world = (.ok (), after) ∧
          world.files.write (arguments.outputFile result) (.text result.code) = .ok after.files ∧
          after.printed = world.printed) := by
  obtain ⟨events, chosen, silent⟩ := run_target arguments result world
  generalize arguments.outputFile result = path at chosen ⊢
  have asked := Source.writes_writeOutput path result.code (world.logged events)
  cases written : world.write path result.code with
  | error cause =>
      have refused : (Source.writeOutput path result.code).run (world.logged events) =
          (.error (.outputUnwritable cause), world.logged events) :=
        Source.run_writeOutput_of_error written
      rw [deliver, Routine.writes_bind_of_ok chosen, silent, Routine.writes_bind_of_error refused,
        asked, Routine.run_bind_of_ok chosen, Routine.run_bind_of_error refused]
      exact ⟨rfl, .inl ⟨cause, events, rfl⟩⟩
  | ok files =>
      have done : (Source.writeOutput path result.code).run (world.logged events) =
          (.ok (), { world.logged events with files }) :=
        Source.run_writeOutput_of_ok written
      rw [deliver, Routine.writes_bind_of_ok chosen, silent, Routine.writes_bind_of_ok done,
        asked, Routine.run_bind_of_ok chosen, Routine.run_bind_of_ok done]
      exact ⟨rfl, .inr ⟨_, rfl, Storage.of_access written, rfl⟩⟩

/-- What a run can come to before it gives out a result. -/
inductive Attempt (arguments : TranspileArguments) (world : World) : Prop
  | missing (failure : Failure) (first : arguments.missing? world.files = some failure)
      (ran : arguments.run.run world = (.error failure, world))
      (silent : arguments.run.writes world = [])
  | failed (failure : Failure) (events : List Event)
      (present : arguments.missing? world.files = none)
      (tried : arguments.result.run world = (.error failure, world.logged events))
      (ran : arguments.run.run world = (.error failure, world.logged events))
      (silent : arguments.run.writes world = [])
  | transpiled (result : Transpiled) (events : List Event)
      (present : arguments.missing? world.files = none)
      (tried : arguments.result.run world = (.ok result, world.logged events))
      (ran : arguments.run.run world = (arguments.giveOut result).run (world.logged events))
      (asked : arguments.run.writes world = (arguments.giveOut result).writes (world.logged events))

theorem attempt (arguments : TranspileArguments) (world : World) : Attempt arguments world := by
  obtain ⟨ran, asked⟩ := arguments.runsLike_stages world
  cases first : arguments.missing? world.files with
  | some failure =>
      rw [first] at ran asked
      exact .missing failure first ran asked
  | none =>
      rw [first] at ran asked
      have silent := arguments.passive_result.writes_eq_nil world
      cases tried : arguments.result.run world with
      | mk outcome after =>
          obtain ⟨events, rfl⟩ := arguments.passive_result.after_eq tried
          cases outcome with
          | error failure =>
              rw [Option.elim_none, Routine.run_bind_of_error tried] at ran
              rw [Option.elim_none, Routine.writes_bind_of_error tried, silent] at asked
              exact .failed failure events first tried ran asked
          | ok result =>
              rw [Option.elim_none, Routine.run_bind_of_ok tried] at ran
              rw [Option.elim_none, Routine.writes_bind_of_ok tried, silent] at asked
              exact .transpiled result events first tried ran asked

/-- A run that fails leaves no trace in the files or the output. -/
theorem unchanged_of_error {failure : Failure} {after : World}
    (failed : arguments.run.run world = (.error failure, after)) :
    after.files = world.files ∧ after.printed = world.printed := by
  cases arguments.attempt world with
  | missing _ _ ran _ =>
      rw [ran] at failed
      cases failed
      exact ⟨rfl, rfl⟩
  | failed _ _ _ _ ran _ =>
      rw [ran] at failed
      cases failed
      exact ⟨rfl, rfl⟩
  | transpiled result events _ _ ran _ =>
      rw [ran, giveOut] at failed
      split at failed
      · cases failed
      · obtain ⟨_, ⟨cause, _, refused⟩ | ⟨_, done, _⟩⟩ :=
          run_deliver arguments result (world.logged events)
        · rw [refused] at failed
          cases failed
          exact ⟨rfl, rfl⟩
        · rw [done] at failed
          cases failed

/-- A run that succeeds transpiled the input. -/
theorem transpiled_of_ok {after : World} (succeeded : arguments.run.run world = (.ok (), after)) :
    ∃ result events, Source.Gives world.files arguments.game [] arguments.input result ∧
      (arguments.giveOut result).run (world.logged events) = (.ok (), after) ∧
      arguments.run.writes world = (arguments.giveOut result).writes (world.logged events) := by
  cases arguments.attempt world with
  | missing _ _ ran _ => rw [ran] at succeeded; cases succeeded
  | failed _ _ _ _ ran _ => rw [ran] at succeeded; cases succeeded
  | transpiled result events _ tried ran asked =>
      exact ⟨result, events, gives_of_result tried, ran ▸ succeeded, asked⟩

/-- A run that prints leaves the files and asks to write none. -/
theorem run_giveOut_of_toStdout (printing : arguments.toStdout = true) {result : Transpiled}
    {after : World} (gaveOut : (arguments.giveOut result).run world = (.ok (), after)) :
    after.files = world.files ∧ after.printed = world.printed ++ result.code := by
  rw [giveOut_of_toStdout printing] at gaveOut
  cases gaveOut
  exact ⟨rfl, rfl⟩

/-- A run that writes asks to write one file and prints nothing. -/
theorem run_giveOut_of_not_toStdout (writing : ¬ arguments.toStdout = true) {result : Transpiled}
    {after : World} (gaveOut : (arguments.giveOut result).run world = (.ok (), after)) :
    after.printed = world.printed ∧ ∃ path,
      world.files.write path (.text result.code) = .ok after.files ∧
      (arguments.giveOut result).writes world = [(path, result.code)] := by
  rw [giveOut_of_not_toStdout writing] at gaveOut ⊢
  obtain ⟨asked, ⟨_, _, refused⟩ | ⟨_, done, written, unprinted⟩⟩ :=
    run_deliver arguments result world
  · rw [refused] at gaveOut
    cases gaveOut
  · rw [done] at gaveOut
    cases gaveOut
    exact ⟨unprinted, _, written, asked⟩

/-- The run fails, and has asked to write nothing until then. -/
def FailsUnwritten (arguments : TranspileArguments) (world : World) (failure : Failure) : Prop :=
  (∃ after, arguments.run.run world = (.error failure, after)) ∧ arguments.run.writes world = []

/-- Something is missing, or the input cannot be transpiled. -/
def Stops (arguments : TranspileArguments) (world : World) (failure : Failure) : Prop :=
  arguments.missing? world.files = some failure ∨
    arguments.missing? world.files = none ∧ (arguments.result.run world).1 = .error failure

/-- A run that writes fails before that exactly if it stops. -/
theorem failsUnwritten_iff (writing : ¬ arguments.toStdout = true) (failure : Failure) :
    arguments.FailsUnwritten world failure ↔
      arguments.Stops world failure := by
  cases arguments.attempt world with
  | missing other first ran silent =>
      rw [FailsUnwritten, Stops, ran, silent, first]
      simp
  | failed other events present tried ran silent =>
      rw [FailsUnwritten, Stops, ran, silent, present, tried]
      simp
  | transpiled result events present tried ran asked =>
      obtain ⟨written, -⟩ := run_deliver arguments result (world.logged events)
      rw [FailsUnwritten, Stops, asked, giveOut_of_not_toStdout writing, written, present, tried]
      simp

/-- A run that prints fails exactly if it stops. -/
theorem fails_iff_of_toStdout (printing : arguments.toStdout = true) (failure : Failure) :
    (∃ after, arguments.run.run world = (.error failure, after)) ↔
      arguments.Stops world failure := by
  cases arguments.attempt world with
  | missing other first ran silent =>
      rw [Stops, ran, first]
      simp
  | failed other events present tried ran silent =>
      rw [Stops, ran, present, tried]
      simp
  | transpiled result events present tried ran asked =>
      rw [Stops, ran, giveOut_of_toStdout printing, present, tried]
      refine iff_of_false ?_ (by simp)
      rintro ⟨_, failed⟩
      cases failed

/-- The command is all or nothing, and its two ways to give out a result agree. -/
theorem run_allOrNothing (world : World) :
    (∀ arguments : TranspileArguments,
      (∀ failure after, arguments.run.run world = (.error failure, after) →
        after.files = world.files ∧ after.printed = world.printed) ∧
      ∀ after, arguments.run.run world = (.ok (), after) →
        ∃ result, Source.Gives world.files arguments.game [] arguments.input result ∧
          (arguments.toStdout = true →
            after.files = world.files ∧ after.printed = world.printed ++ result.code) ∧
          (arguments.toStdout = false → after.printed = world.printed ∧
            (∃ path, arguments.run.writes world = [(path, result.code)] ∧
              world.files.write path (.text result.code) = .ok after.files) ∧
            ∃ location,
              (∀ other, other ≠ location →
                after.files.top.content? other = world.files.top.content? other) ∧
              (after.files.top.content? location = some (.text result.code) ∨
                after.files.top.content? location = world.files.top.content? location))) ∧
    ∀ (input game : String) (output unused : Option String),
      let writing : TranspileArguments := ⟨input, output, false, game⟩
      let printing : TranspileArguments := ⟨input, unused, true, game⟩
      (∀ printed written, printing.run.run world = (.ok (), printed) →
        writing.run.run world = (.ok (), written) →
        ∃ path code, writing.run.writes world = [(path, code)] ∧
          printed.printed = world.printed ++ code) ∧
      (world.files.isDirectory (Path.directory writing.outputPath) = true → ∀ failure,
        writing.FailsUnwritten world failure ↔
          ∃ after, printing.run.run world = (.error failure, after)) := by
  refine ⟨fun arguments => ⟨fun failure after => unchanged_of_error, fun after succeeded => ?_⟩,
    fun input game output unused => ⟨fun printed written shown delivered => ?_, ?_⟩⟩
  · obtain ⟨result, events, gives, gaveOut, asked⟩ := transpiled_of_ok succeeded
    refine ⟨result, gives, fun printing => ?_, fun writing => ?_⟩
    · obtain ⟨files, printed⟩ := run_giveOut_of_toStdout printing gaveOut
      exact ⟨files, printed⟩
    · obtain ⟨unprinted, path, written, one⟩ :=
        run_giveOut_of_not_toStdout (Bool.not_eq_true _ ▸ writing) gaveOut
      exact ⟨unprinted, ⟨path, asked.trans one, written⟩, FileSystem.content?_write written⟩
  · obtain ⟨result, _, gives, gaveOut, -⟩ := transpiled_of_ok shown
    obtain ⟨other, _, again, wrote, asked⟩ := transpiled_of_ok delivered
    obtain rfl := gives.unique again
    obtain ⟨-, path, -, one⟩ := run_giveOut_of_not_toStdout Bool.false_ne_true wrote
    exact ⟨path, result.code, asked.trans one, (run_giveOut_of_toStdout rfl gaveOut).2⟩
  · intro directory failure
    have same : missing? ⟨input, output, false, game⟩ world.files =
        missing? ⟨input, unused, true, game⟩ world.files := by
      simp [missing?, directory]
    rw [failsUnwritten_iff Bool.false_ne_true, fails_iff_of_toStdout rfl, Stops, Stops, same]
    rfl

/-- A script that is printed and written. -/
def desk : World where
  files := ⟨.directory [("A.pps.json", .file (.text
    "\x7b\"script\":\x7b\"name\":\"A\",\"parent\":\"Q\"\x7d\x7d") false)], []⟩
  programs _ _ _ := .error .notFound

theorem run_allOrNothing_desk :
    ∃ printed written path code,
      (TranspileArguments.run ⟨"A.pps.json", none, true, "FO4"⟩).run desk = (.ok (), printed) ∧
      (TranspileArguments.run ⟨"A.pps.json", none, false, "FO4"⟩).run desk = (.ok (), written) ∧
      (TranspileArguments.run ⟨"A.pps.json", none, false, "FO4"⟩).writes desk = [(path, code)] ∧
      printed.printed = desk.printed ++ code := by
  have prints : ((TranspileArguments.run ⟨"A.pps.json", none, true, "FO4"⟩).run
      desk).1.toOption = some () := by
    decide +kernel
  have writes : ((TranspileArguments.run ⟨"A.pps.json", none, false, "FO4"⟩).run
      desk).1.toOption = some () := by
    decide +kernel
  obtain ⟨path, code, asked, shown⟩ := ((run_allOrNothing desk).2 "A.pps.json" "FO4" none none).1
    _ _ (Routine.run_eq_of_toOption prints) (Routine.run_eq_of_toOption writes)
  exact ⟨_, _, path, code, Routine.run_eq_of_toOption prints, Routine.run_eq_of_toOption writes,
    asked, shown⟩

end TranspileArguments

end PapyrusWriter
