import PapyrusWriter.Proofs.Replacement
import PapyrusWriter.Proofs.Rewriting
/-!
# A range loop is a loop written by hand

A `range` loop counts through an array by an index variable. The same loop can be written with a
declaration, a `while` and an increment. The two are laid out differently: a declaration ends in a
blank, and the body of a `while` is put on one level. Apart from white space the lines are the same,
for any names at all: a name of the generated script goes on with `Index` or `.Length` after the
part that stands for the array, since no colon of the array's name can pair with what follows
(`Identifier.normalized_append`).
-/

namespace PapyrusWriter

set_option autoImplicit false

/-! ## Names -/

theorem exists_splitAtMark (mark : Char) (cs : List Char) :
    ∃ piece rest, splitAtMark mark cs = piece :: rest := by
  cases cs with
  | nil => exact ⟨[], [], rfl⟩
  | cons c cs =>
      rw [splitAtMark]
      by_cases same : c = mark
      · exact ⟨[], _, if_pos same⟩
      · rw [if_neg same]
        cases splitAtMark mark cs with
        | nil => exact ⟨[c], [], rfl⟩
        | cons piece rest => exact ⟨c :: piece, rest, rfl⟩

/-- Joining undoes splitting. -/
theorem intercalate_splitAtMark (mark : Char) (cs : List Char) :
    [mark].intercalate (splitAtMark mark cs) = cs := by
  induction cs with
  | nil => rfl
  | cons c cs ih =>
      obtain ⟨piece, rest, pieces⟩ := exists_splitAtMark mark cs
      rw [pieces] at ih
      rw [splitAtMark, pieces]
      by_cases same : c = mark
      · rw [if_pos same, List.intercalate_cons_cons, ih, same]
        rfl
      · rw [if_neg same, ← ih]
        cases rest <;> simp [List.intercalate_cons_cons]

/-- The segments of a name are normalized like the whole text. -/
theorem QualifiedName.normalized_ofString (text : String) :
    (ofString text).normalized = Text.replaceAll "::" ":" text := by
  have dotted : ∀ pieces : List (List Char),
      Text.replaceFrom "::".toList ":".toList 0 (['.'].intercalate pieces) =
        ['.'].intercalate (pieces.map (Text.replaceFrom "::".toList ":".toList 0)) :=
    Text.replaceFrom_intercalate (by decide) (by decide)
  apply String.toList_injective
  rw [Text.toList_replaceAll, ← intercalate_splitAtMark '.' text.toList, dotted, normalized,
    String.toList_intercalate, ofString, List.map_map, List.map_map]
  simp [Function.comp_def, Identifier.normalized, Text.toList_replaceAll]

/-- What has no colon can be added before or after a name is normalized. -/
theorem Identifier.normalized_append (raw : String) {suffix : String}
    (colonless : ':' ∉ suffix.toList) :
    Text.replaceAll "::" ":" (raw ++ suffix) = Text.replaceAll "::" ":" raw ++ suffix := by
  have disjoint : "::".toList.Disjoint suffix.toList := by
    intro c colon within
    rw [List.eq_of_mem_replicate (show c ∈ List.replicate 2 ':' from colon)] at within
    exact colonless within
  apply String.toList_injective
  rw [Text.toList_replaceAll, String.toList_append, String.toList_append, Text.toList_replaceAll,
    Text.replaceFrom_append_of_disjoint_right (by decide) disjoint]

/-- The index variable of a loop over an array, as a name of the source. -/
def Identifier.index (array : Identifier) : Identifier := ⟨array.raw ++ "Index"⟩

theorem Identifier.normalized_index (array : Identifier) :
    array.index.normalized = indexName array :=
  normalized_append array.raw (by decide)

theorem QualifiedName.normalized_length (array : Identifier) :
    (ofString (array.raw ++ ".Length")).normalized = array.normalized ++ ".Length" := by
  rw [normalized_ofString]
  exact Identifier.normalized_append array.raw (by decide)

/-! ## Declarations of integers -/

theorem Text.trim_append_blank (text : String) : trim (text ++ " ") = trim text := by
  have blank : isBlank ' ' = true := rfl
  rw [trim, trim, trimList_eq, trimList_eq, String.toList_append, List.dropWhile_append]
  cases rest : text.toList.dropWhile isBlank with
  | nil => rfl
  | cons c cs => exact congrArg String.ofList (List.rdropWhile_concat_pos isBlank _ ' ' blank)

theorem Outline.seenBy_trimmed_blank (text : String) :
    (Outline.emit (text ++ " ")).seenBy .trimmed = (Outline.emit text).seenBy .trimmed :=
  congrArg (fun line => pure [line]) (Text.trim_append_blank text)

/-- Without white space, the body of a loop is a body like any other. -/
theorem Outline.seenBy_trimmed_loop (body : Outline) :
    (Outline.loop body).seenBy .trimmed = (Outline.indented body).seenBy .trimmed := rfl

/-- A declaration without modifiers. -/
def VariableDecl.int (name : Identifier) (value : Expr) : VariableDecl :=
  ⟨.named "Int", name, some value, false, false⟩

/-! ## The loop written by hand -/

/-- The rule that puts a declaration and a `while` in the place of a `range` loop. -/
def Stmt.unrange : Stmt → List Stmt
  | .range element array body =>
      let index := QualifiedName.ofString array.index.raw
      [.variable (.int array.index (.literal (.int "0"))),
        .while (.binary (.name index) "<" (.name (.ofString (array.raw ++ ".Length"))))
          (.variable (.int element (.index (.name (.ofString array.raw)) (.name index))) ::
            (body ++ [.expr (.increment index)]))]
  | stmt => [stmt]

example : Renderer.outcome
    (Stmt.renderList ⟨.skyrimSE, .empty, .flat⟩ (Stmt.unrange (.range ⟨"door"⟩ ⟨"Keep::doors"⟩ [])))
    Page.blank =
      .ok ⟨0, #["Int Keep:doorsIndex = 0 ",
        "While Keep:doorsIndex < Keep:doors.Length",
        "    Int door = Keep:doors[Keep:doorsIndex]",
        "    Keep:doorsIndex += 1",
        "EndWhile"]⟩ := rfl

/-- The script with loops written by hand in the place of all `range` loops. -/
def Script.unrange (script : Script) : Script := script.rewrite Stmt.unrange

section Loops

variable (game : Game) (table : DirectiveTable)

open Outline (seenBy_seq_congr seenBy_seq_skip seenBy_indented_congr)

/-- A value that can be rendered is no initializer, so the declaration is a single line. -/
theorem Outline.declaration_of_ok (head name : String) (declared : Option TypeRef)
    (suffix : String) {value : Expr} {text : String} (rendered : value.render game = .ok text) :
    Outline.declaration game head name declared (some value) suffix =
      .emitLine (.ok (head ++ " " ++ name ++ " = " ++ text ++ " " ++ suffix)) := by
  cases value with
  | arrayInit elements => cases rendered
  | structInit fields => cases game <;> cases rendered
  | _ =>
      exact congrArg (fun value => Outline.emitLine (value >>= fun text =>
        pure (head ++ " " ++ name ++ " = " ++ text ++ " " ++ suffix))) rendered

theorem VariableDecl.seenBy_int (name : Identifier) {value : Expr} {text : String}
    (rendered : value.render game = .ok text) :
    ((VariableDecl.int name value).outline game).seenBy .trimmed =
      (Outline.emit ("Int " ++ name.normalized ++ " = " ++ text)).seenBy .trimmed := by
  have typed : (TypeRef.named "Int").text = "Int" := by decide
  have unmodified : declarationSuffix game false false = .ok "" := rfl
  rw [VariableDecl.outline, VariableDecl.int, unmodified, typed]
  show (Outline.declaration game "Int" name.normalized _ (some value) "").seenBy .trimmed = _
  rw [Outline.declaration_of_ok game "Int" name.normalized _ "" rendered, String.append_empty]
  exact Outline.seenBy_trimmed_blank ("Int" ++ " " ++ name.normalized ++ " = " ++ text)

section Parts

variable (array : Identifier)

theorem Identifier.render_index :
    (Expr.name (.ofString array.index.raw)).render game = .ok (indexName array) :=
  congrArg Except.ok ((QualifiedName.normalized_ofString _).trans array.normalized_index)

theorem seenBy_rangeStart :
    ((VariableDecl.int array.index (.literal (.int "0"))).outline game).seenBy .trimmed =
      (Outline.emit ("Int " ++ indexName array ++ " = 0")).seenBy .trimmed := by
  have zero : " = " ++ "0" = " = 0" := rfl
  have line := VariableDecl.seenBy_int game array.index
    (show (Expr.literal (.int "0")).render game = .ok "0" from rfl)
  rwa [array.normalized_index, String.append_assoc, zero] at line

theorem keywordLine_rangeHead :
    keywordLine game "While" (.binary (.name (.ofString array.index.raw)) "<"
        (.name (.ofString (array.raw ++ ".Length")))) =
      .ok ("While " ++ indexName array ++ " < " ++ array.normalized ++ ".Length") := by
  have compared : " " ++ ("<" ++ " ") = " < " := rfl
  have keyword : "While" ++ " " = "While " := rfl
  have length : (Expr.name (.ofString (array.raw ++ ".Length"))).render game =
      .ok (array.normalized ++ ".Length") :=
    congrArg Except.ok (QualifiedName.normalized_length array)
  have joined : "While" ++ " " ++ (indexName array ++ " " ++ "<" ++ " " ++
      (array.normalized ++ ".Length")) =
      "While " ++ indexName array ++ " < " ++ array.normalized ++ ".Length" := by
    simp only [← keyword, ← compared, String.append_assoc]
  rw [keywordLine, Expr.render, Identifier.render_index, length, ← joined]
  rfl

theorem seenBy_rangeItem (element : Identifier) :
    ((VariableDecl.int element (.index (.name (.ofString array.raw))
        (.name (.ofString array.index.raw)))).outline game).seenBy .trimmed =
      (Outline.emit ("Int " ++ element.normalized ++ " = " ++ array.normalized ++ "[" ++
        indexName array ++ "]")).seenBy .trimmed := by
  have named : (Expr.name (.ofString array.raw)).render game = .ok array.normalized :=
    congrArg Except.ok (QualifiedName.normalized_ofString array.raw)
  have item : (Expr.index (.name (.ofString array.raw)) (.name (.ofString array.index.raw))).render
      game = .ok (array.normalized ++ "[" ++ indexName array ++ "]") := by
    rw [Expr.render, named, Identifier.render_index]
    rfl
  have line := VariableDecl.seenBy_int game element item
  simpa only [String.append_assoc] using line

theorem Identifier.render_increment :
    (Expr.increment (.ofString array.index.raw)).render game = .ok (indexName array ++ " += 1") :=
  congrArg (fun name => Except.ok (name ++ " += 1"))
    ((QualifiedName.normalized_ofString _).trans array.normalized_index)

end Parts

theorem Stmt.unrange_kept : LineView.trimmed.KeptBy game table Stmt.unrange := by
  intro stmt
  fun_cases Stmt.unrange stmt with
  | case2 stmt _ => exact Stmt.seenBy_outlineList_singleton game table _ stmt
  | case1 element array body index =>
      rw [Stmt.outlineList, Stmt.outlineList, Stmt.outlineList, Stmt.outline, Stmt.outline,
        Stmt.outline, keywordLine_rangeHead]
      refine seenBy_seq_congr (seenBy_rangeStart game array) ?_
      refine (seenBy_seq_skip _ _).trans (seenBy_seq_congr rfl ?_)
      refine seenBy_seq_congr ((Outline.seenBy_trimmed_loop _).trans (seenBy_indented_congr ?_)) rfl
      refine seenBy_seq_congr (seenBy_rangeItem game array element) ?_
      rw [Stmt.seenBy_outlineList_append]
      refine seenBy_seq_congr rfl ?_
      rw [Stmt.seenBy_outlineList_singleton, Stmt.outline, Identifier.render_increment]
      rfl

end Loops

open Renderer

/-- Loops written by hand in the place of all `range` loops give the same error, or as many lines,
of which each is the same up to white space at its ends. -/
theorem Script.unrange_keeps_texts (game : Game) (table : DirectiveTable) (script : Script) :
    (∃ error, (script.generate game table).result = .error error ∧
      (script.unrange.generate game table).result = .error error) ∨
    ∃ counted written : Page,
      outcome (script.render ⟨game, table, .flat⟩) Page.blank = .ok counted ∧
      (script.generate game table).result = .ok counted.text ∧
      outcome (script.unrange.render ⟨game, table, .flat⟩) Page.blank = .ok written ∧
      (script.unrange.generate game table).result = .ok written.text ∧
      counted.lines.size = written.lines.size ∧
      ∀ i : Nat, counted.lines[i]?.map Text.trim = written.lines[i]?.map Text.trim := by
  have same : (script.outline game table).texts = (script.unrange.outline game table).texts := by
    rw [← Outline.seenBy_trimmed, ← Outline.seenBy_trimmed]
    exact (script.seenBy_rewrite (Stmt.unrange_kept game table)).symm
  have follows := script.follows_render ⟨game, table, .flat⟩
  have follows' := script.unrange.follows_render ⟨game, table, .flat⟩
  rw [Script.generate_result, Script.generate_result]
  obtain ⟨error, failed, failed'⟩ | ⟨front, back, wrote, wrote', trimmed⟩ :=
    follows.alike follows' same Page.blank
  · exact .inl ⟨error, by rw [failed]; rfl, by rw [failed']; rfl⟩
  · refine .inr ⟨_, _, wrote, by rw [wrote]; rfl, wrote', by rw [wrote']; rfl, ?_, fun i => ?_⟩
    · have sizes := congrArg List.length trimmed
      simpa [Page.lines_writeLines_blank] using sizes
    · have entries := congrArg (·[i]?) trimmed
      simpa [Page.lines_writeLines_blank] using entries

end PapyrusWriter
