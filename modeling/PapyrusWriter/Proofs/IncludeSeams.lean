import PapyrusWriter.Proofs.DirectiveOrder
import PapyrusWriter.Proofs.Outcome
import PapyrusWriter.Proofs.Replacement
/-!
# Substitution keeps to the seams of included files

The included texts and the script are joined before the names of the directive table are replaced.
Every included text ends in a line feed then. A name without a line feed is not found across it, and
whatever its value brings in, the line feed at the seam is still there when the next name is looked
for. So the joined text is rewritten part by part (`DirectiveTable.substitute_assemble`).
-/

namespace PapyrusWriter

set_option autoImplicit false

/-- A closed text ends in a line feed. -/
theorem closeLine_eq (text : String) : ∃ front, closeLine text = front ++ "\n" := by
  unfold closeLine
  split
  · rename_i ends
    obtain ⟨front, split⟩ := List.getLast?_eq_some_iff.mp ends
    refine ⟨String.ofList front, String.toList_injective ?_⟩
    rw [split, String.toList_append, String.toList_ofList]
    rfl
  · exact ⟨text, rfl⟩

namespace DirectiveTable

/-- No name has a line feed. -/
def SingleLine (entries : List (String × String)) : Prop :=
  ∀ entry ∈ entries, '\n' ∉ entry.1.toList

theorem replaceEntries_empty (entries : List (String × String)) :
    replaceEntries entries "" = "" := by
  induction entries with
  | nil => rfl
  | cons entry rest ih =>
      obtain ⟨name, value⟩ := entry
      rw [replaceEntries]
      split <;> exact ih

/-- A line feed is a seam for every entry in turn. -/
theorem replaceEntries_seam {entries : List (String × String)} (single : SingleLine entries)
    (front back : String) :
    replaceEntries entries (front ++ "\n" ++ back) =
      replaceEntries entries front ++ "\n" ++ replaceEntries entries back := by
  induction entries generalizing front back with
  | nil => rfl
  | cons entry rest ih =>
      obtain ⟨name, value⟩ := entry
      obtain ⟨here, others⟩ := List.forall_mem_cons.mp single
      simp only [replaceEntries]
      split
      · exact ih others front back
      · rename_i named
        have seam : Text.replaceAll name (Text.stripQuotes value) (front ++ "\n" ++ back) = _ :=
          Text.replaceAll_seam named here (Text.stripQuotes value) front back
        rw [seam]
        exact ih others _ _

/-- What follows a closed text is rewritten apart from it. -/
theorem substitute_closeLine_append {table : DirectiveTable} (single : SingleLine table.entries)
    (text rest : String) :
    table.substitute (closeLine text ++ rest) =
      table.substitute (closeLine text) ++ table.substitute rest := by
  obtain ⟨front, closed⟩ := closeLine_eq text
  have alone : table.substitute (front ++ "\n") = table.substitute front ++ "\n" := by
    have seam := replaceEntries_seam single front ""
    rwa [replaceEntries_empty, String.append_empty, String.append_empty] at seam
  rw [closed, alone]
  exact replaceEntries_seam single front rest

theorem substitute_assemble {table : DirectiveTable} (single : SingleLine table.entries)
    (includes : List String) (script : String) :
    table.substitute (assemble includes script) =
      String.join (includes.map fun text => table.substitute (closeLine text)) ++
        table.substitute script := by
  induction includes with
  | nil => simp [assemble]
  | cons text rest ih =>
      have joined : assemble (text :: rest) script = closeLine text ++ assemble rest script := by
        simp [assemble, String.append_assoc]
      rw [joined, substitute_closeLine_append single, ih, List.map_cons, String.join_cons,
        String.append_assoc]

end DirectiveTable

/-- If no name of the table has a line feed, the code of a successful run consists of the included
texts in the order of their directives, each closed by a line feed and rewritten alone, and of the
script rewritten alone. An empty file leaves an empty line. The table is that of the definitions,
and the script that of the table, whatever is included. -/
theorem SyntaxTree.transpile_part_by_part (read : FileReader) (options : TranspileOptions)
    (tree : SyntaxTree) (result : Transpiled)
    (succeeded : (tree.transpile read options).result = .ok result)
    (single : ∀ entry ∈ result.directives.entries, '\n' ∉ entry.1.toList) :
    ∃ game texts script, Game.parse options.game = .ok game ∧
      result.directives = (DirectiveTable.ofList options.defines).defineAll
        (Directive.definitions tree.directives) ∧
      List.Forall₂ (fun path text => read (includePath options.includeRoot path) = .ok text)
        (Directive.paths tree.directives) texts ∧
      (tree.script.generate game result.directives).result = .ok script ∧
      result.code =
        String.join (texts.map fun text => result.directives.substitute
          (if text.toList.getLast? = some '\n' then text else text ++ "\n")) ++
        result.directives.substitute script ∧
      result.directives.substitute (closeLine "") = "\n" := by
  obtain ⟨game, state, script, parsed, taken, generated, rfl⟩ := stages_of_transpile succeeded
  obtain ⟨table, texts, includes, each⟩ := takeDirectives_ok read options.includeRoot taken
  have emptyLine : state.table.substitute (closeLine "") = "\n" := by
    have seam := DirectiveTable.replaceEntries_seam single "" ""
    rwa [DirectiveTable.replaceEntries_empty] at seam
  refine ⟨game, state.includes, script, parsed, table, by rwa [includes], generated, ?_, emptyLine⟩
  exact DirectiveTable.substitute_assemble single state.includes script

/-- Values that bring in a line feed and a name that is replaced later. -/
def SyntaxTree.almanac : SyntaxTree where
  directives :=
    [.define "HEAD" (some "; by AUTHOR\n;"), .includeFile "a.psc", .includeFile "b.psc",
      .define "AUTHOR" (some "me"), .includeFile "c.psc"]
  script := ⟨⟨"AUTHORs"⟩, ⟨"Quest"⟩, [], []⟩

/-- The texts of three files, of which the first ends inside a name and the second is empty. -/
def SyntaxTree.shelf : FileReader := fun path =>
  if path = "./a.psc" then .ok "HEAD\n; AUTH"
  else if path = "./b.psc" then .ok ""
  else if path = "./c.psc" then .ok "OR\n"
  else .error .notFound

theorem SyntaxTree.almanac_part_by_part :
    ∃ result, (almanac.transpile shelf ⟨"FO4", ".", []⟩).result = .ok result ∧
      (∀ entry ∈ result.directives.entries, '\n' ∉ entry.1.toList) ∧
      result.code =
        "; by me\n;\n; AUTH\n" ++ "\n" ++ "OR\n" ++ "ScriptName mes extends Quest\n\n" := by
  obtain ⟨result, ran, table⟩ : ∃ result,
      (almanac.transpile shelf ⟨"FO4", ".", []⟩).result = .ok result ∧
        result.directives = ⟨[("HEAD", "; by AUTHOR\n;"), ("AUTHOR", "me")], by decide⟩ :=
    ⟨_, rfl, rfl⟩
  have single : ∀ entry ∈ result.directives.entries, '\n' ∉ entry.1.toList := by
    rw [table]
    decide
  refine ⟨result, ran, single, ?_⟩
  obtain ⟨game, texts, script, parsed, -, each, generated, code, -⟩ :=
    transpile_part_by_part shelf ⟨"FO4", ".", []⟩ almanac result ran single
  cases parsed
  rw [table] at generated code
  cases generated
  change List.Forall₂ _ ["a.psc", "b.psc", "c.psc"] texts at each
  obtain _ | ⟨first, _ | ⟨second, _ | ⟨third, ⟨⟩⟩⟩⟩ := each
  cases first
  cases second
  cases third
  rw [code]
  decide

end PapyrusWriter
