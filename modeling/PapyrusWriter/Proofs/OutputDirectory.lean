import PapyrusWriter.Proofs.DirectoryEntries
import PapyrusWriter.Proofs.TranspileCommand
/-!
# Where the command `transpile` writes

The output directory is the directory of the output path, and it has to be there. Without another
name from the script, the file that is written is an entry of that directory. A name from the script
is joined to the directory, so the same holds as long as that name has no separator. A name such as
`../B.psc` leads out of it (`run_leaves_directory`).
-/

namespace PapyrusWriter

set_option autoImplicit false

/-- A write changes the file that its path leads to, which is no directory. -/
theorem FileSystem.place?_of_write {files after : FileSystem} {path : String} {content : Content}
    (written : files.write path content = .ok after) :
    ∃ location, files.place? path = some location ∧ ¬ files.top.HasDirectory location ∧
      ∀ other, other ≠ location → after.top.content? other = files.top.content? other := by
  obtain ⟨location, led, ⟨device, rfl⟩ | ⟨free, executable, rfl⟩⟩ := write_cases written
  · refine ⟨location, led, ?_, fun _ _ => rfl⟩
    rintro ⟨entries, found⟩
    cases device.symm.trans found
  · refine ⟨location, led, free.not_hasDirectory, fun other differs => ?_⟩
    exact Node.content?_set free.bare differs

namespace TranspileArguments

variable {arguments : TranspileArguments} {world after : World}

/-- A run that succeeds has found its output directory, and has written to its output file. -/
theorem written_of_ok (writing : arguments.toStdout = false)
    (succeeded : arguments.run.run world = (.ok (), after)) :
    ∃ result, Source.Gives world.files arguments.game [] arguments.input result ∧
      world.files.isDirectory (Path.directory arguments.outputPath) = true ∧
      arguments.run.writes world = [(arguments.outputFile result, result.code)] ∧
      world.files.write (arguments.outputFile result) (.text result.code) = .ok after.files := by
  cases arguments.attempt world with
  | missing _ _ ran _ => rw [ran] at succeeded; cases succeeded
  | failed _ _ _ _ ran _ => rw [ran] at succeeded; cases succeeded
  | transpiled result events present tried ran asked =>
      have directory : world.files.isDirectory (Path.directory arguments.outputPath) = true := by
        simp only [missing?, writing] at present
        split_ifs at present with _ absent
        simpa using absent
      rw [giveOut_of_not_toStdout (by simp [writing])] at ran asked
      obtain ⟨one, ⟨_, _, refused⟩ | ⟨_, done, written, -⟩⟩ :=
        run_deliver arguments result (world.logged events)
      · rw [ran, refused] at succeeded
        cases succeeded
      · rw [ran, done] at succeeded
        cases succeeded
        exact ⟨result, gives_of_result tried, directory, asked.trans one, written⟩

/-- The file that is written is an entry of the output directory, or what such an entry links to,
if the script gives no name with a separator. Nothing else changes. -/
theorem run_writes_into_directory (writing : arguments.toStdout = false) :
    (∀ failure, arguments.run.run world = (.error failure, after) → after.files = world.files) ∧
    (arguments.run.run world = (.ok (), after) →
      ∃ result folder location,
        Source.Gives world.files arguments.game [] arguments.input result ∧
        world.files.place? (Path.directory arguments.outputPath) = some folder ∧
        world.files.top.HasDirectory folder ∧
        arguments.run.writes world = [(arguments.outputFile result, result.code)] ∧
        world.files.place? (arguments.outputFile result) = some location ∧
        (∀ other, other ≠ location →
          after.files.top.content? other = world.files.top.content? other) ∧
        (result.outputFileName? = none → ∃ name, world.files.top.EntryOf folder name location) ∧
        ∀ name, result.outputFileName? = some name → '/' ∉ (Text.stripQuotes name).toList →
          world.files.top.EntryOf folder (Text.stripQuotes name) location) := by
  refine ⟨fun failure failed => (unchanged_of_error failed).1, fun succeeded => ?_⟩
  obtain ⟨result, gives, directory, asked, written⟩ := written_of_ok writing succeeded
  obtain ⟨folder, toFolder, hasDirectory⟩ := FileSystem.isDirectory_iff.mp directory
  obtain ⟨location, led, noDirectory, others⟩ := FileSystem.place?_of_write written
  refine ⟨result, folder, location, gives, toFolder, hasDirectory, asked, led, others, ?_, ?_⟩
  · intro unnamed
    rw [outputFile, unnamed] at led
    exact (FileSystem.entryOf_of_place? toFolder hasDirectory led).resolve_right noDirectory
  · intro name named plain
    rw [outputFile, named] at led
    exact (FileSystem.entryOf_of_place?_join toFolder hasDirectory plain led).resolve_right
      noDirectory

/-- A directory with a script that names its output file. -/
def shelf (name : String) : World where
  files := ⟨.directory [("in", .directory [("A.pps.json", .file (.text
    ("\x7b\"directives\":[\x7b\"kind\":\"define\",\"name\":\"OutputFileName\",\"value\":\"" ++
      name ++ "\"\x7d],\"script\":\x7b\"name\":\"A\",\"parent\":\"Q\"\x7d\x7d")) false)])], []⟩
  programs _ _ _ := .error .notFound

/-- The run that transpiles the script on a shelf. -/
def fromShelf : TranspileArguments := ⟨"in/A.pps.json", none, false, "SkyrimSE"⟩

theorem run_writes_into_directory_shelf :
    ∃ after, fromShelf.run.run (shelf "B.psc") = (.ok (), after) ∧
      ∀ other, other ≠ ["in", "B.psc"] →
        after.files.top.content? other = (shelf "B.psc").files.top.content? other := by
  have runs : (fromShelf.run.run (shelf "B.psc")).1.toOption = some () := by decide +kernel
  have succeeded := Routine.run_eq_of_toOption runs
  obtain ⟨result, folder, location, gives, toFolder, -, -, -, others, -, entry⟩ :=
    (run_writes_into_directory rfl).2 succeeded
  have asked : (fromShelf.result.run (shelf "B.psc")).1.toOption.bind Transpiled.outputFileName? =
      some "B.psc" := by
    decide +kernel
  obtain ⟨same, tried, named⟩ := Option.bind_eq_some_iff.mp asked
  obtain rfl := gives.unique (gives_of_result (Routine.run_eq_of_toOption tried))
  have there : (shelf "B.psc").files.place? (Path.directory fromShelf.outputPath) =
      some ["in"] := by
    decide +kernel
  cases there.symm.trans toFolder
  have unlinked : ¬ ∃ target, (shelf "B.psc").files.top.get? (["in"] ++ ["B.psc"]) =
      some (.link target) := by
    rintro ⟨target, found⟩
    cases found
  obtain rfl := (entry "B.psc" named (by decide)).resolve_right unlinked
  exact ⟨_, succeeded, others⟩

/-- A script can have its output written outside of the output directory. -/
theorem run_leaves_directory :
    ¬ ∀ (arguments : TranspileArguments) (world after : World), arguments.toStdout = false →
      arguments.run.run world = (.ok (), after) →
      ∃ folder name, world.files.place? (Path.directory arguments.outputPath) = some folder ∧
        ∀ other, other ≠ folder ++ [name] →
          after.files.top.content? other = world.files.top.content? other := by
  intro inside
  have runs : (fromShelf.run.run (shelf "../B.psc")).1.toOption = some () := by decide +kernel
  obtain ⟨folder, name, toFolder, others⟩ :=
    inside fromShelf _ _ rfl (Routine.run_eq_of_toOption runs)
  have there : (shelf "../B.psc").files.place? (Path.directory fromShelf.outputPath) =
      some ["in"] := by
    decide +kernel
  cases there.symm.trans toFolder
  have same := others ["B.psc"] (by simp)
  revert same
  decide +kernel

end TranspileArguments

end PapyrusWriter
