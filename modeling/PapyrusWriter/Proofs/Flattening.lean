import Mathlib.Data.List.DropRight
import PapyrusWriter.Proofs.Indentation
/-!
# Flat loops and nested loops

The body of a `While` loop is trimmed line by line and put on one level. Against a renderer that
lays out loops like any other body, only white space differs: in both layouts the trimmed lines are
the `texts` of the outline, and these know neither levels nor layouts (`map_trim_lines`).

Between the head and the end of a flat loop there are empty lines, and lines that start exactly one
level below the head.
-/

namespace PapyrusWriter

set_option autoImplicit false

/-! ## Trimming -/

namespace Text

theorem trimList_eq (cs : List Char) :
    trimList cs = (cs.dropWhile isBlank).rdropWhile isBlank := rfl

/-- There is no white space at the ends. -/
def Tight (text : String) : Prop :=
  (∀ c ∈ text.toList.head?, isBlank c = false) ∧ ∀ c ∈ text.toList.getLast?, isBlank c = false

theorem head?_trimList {cs : List Char} {c : Char} (first : c ∈ (trimList cs).head?) :
    isBlank c = false := by
  obtain ⟨rest, split⟩ := List.rdropWhile_prefix isBlank (l := cs.dropWhile isBlank)
  rw [← trimList_eq] at split
  cases trimmed : trimList cs with
  | nil =>
      rw [trimmed] at first
      cases first
  | cons d ds =>
      rw [trimmed] at first split
      cases first
      have kept := List.head?_dropWhile_not isBlank cs
      rw [← split] at kept
      exact kept

theorem getLast?_trimList {cs : List Char} {c : Char} (last : c ∈ (trimList cs).getLast?) :
    isBlank c = false := by
  rw [trimList, List.getLast?_reverse] at last
  have kept := List.head?_dropWhile_not isBlank (cs.dropWhile isBlank).reverse
  rw [last] at kept
  exact kept

theorem tight_trim (text : String) : Tight (trim text) := by
  unfold Tight trim
  rw [String.toList_ofList]
  exact ⟨fun c => head?_trimList, fun c => getLast?_trimList⟩

theorem trim_of_tight {text : String} (tight : Tight text) : trim text = text := by
  have front : text.toList.dropWhile isBlank = text.toList := by
    rw [List.dropWhile_eq_self_iff]
    intro filled blank
    have first := tight.1 text.toList[0] (by simp [List.head?_eq_getElem?])
    exact absurd blank (by simp [first])
  have back : text.toList.rdropWhile isBlank = text.toList := by
    rw [List.rdropWhile_eq_self_iff]
    intro filled blank
    have last := tight.2 (text.toList.getLast filled) (List.getLast?_eq_getLast_of_ne_nil filled)
    exact absurd blank (by simp [last])
  rw [trim, trimList_eq, front, back, String.ofList_toList]

theorem trim_trim (text : String) : trim (trim text) = trim text :=
  trim_of_tight (tight_trim text)

/-- Indentation is white space. -/
theorem trim_line (level : Nat) (text : String) : trim (Page.line level text) = trim text := by
  by_cases filled : text = ""
  · rw [filled, Page.line_empty]
  · have blank : ∀ c ∈ List.replicate (4 * level) ' ', isBlank c := by
      intro c spaces
      rw [List.eq_of_mem_replicate spaces]
      rfl
    rw [Page.line_of_ne level filled]
    simp only [trim, trimList, Page.indentation, String.toList_append, String.toList_ofList,
      List.dropWhile_append_of_pos blank]

end Text

/-! ## The texts of an outline -/

namespace Outline

/-- The trimmed lines of an outline, or its error, without regard to levels. -/
def texts : Outline → Except TranspileError (List String)
  | .skip => pure []
  | .emit text => pure [Text.trim text]
  | .need value next => value >>= fun text => (next text).texts
  | .seq first second =>
      first.texts >>= fun front => second.texts >>= fun back => pure (front ++ back)
  | .indented body => body.texts
  | .loop body => body.texts

theorem trim_loopLine (loops : LoopLayout) (text : String) :
    Text.trim (loopLine loops text) = Text.trim text := by
  cases loops with
  | flat => rw [loopLine, Text.trim_line, Text.trim_trim]
  | nested => rw [loopLine, Text.trim_line]

/-- Without white space at their ends, the lines are the texts, in every layout of loops. -/
theorem map_trim_lines (loops : LoopLayout) (outline : Outline) :
    (outline.lines loops >>= fun lines => pure (lines.map Text.trim)) = outline.texts := by
  induction outline with
  | skip => rfl
  | emit text => rfl
  | need value next ih =>
      rw [lines, texts, bind_assoc]
      exact congrArg (value >>= ·) (funext ih)
  | seq first second firstIh secondIh =>
      rw [lines, texts, ← firstIh, ← secondIh]
      simp only [bind_assoc, pure_bind, List.map_append]
  | indented body ih =>
      have same : Text.trim ∘ Page.line 1 = Text.trim := funext (Text.trim_line 1)
      rw [lines, texts, ← ih]
      simp only [bind_assoc, pure_bind, List.map_map, same]
  | loop body ih =>
      have same : Text.trim ∘ loopLine loops = Text.trim := funext (trim_loopLine loops)
      rw [lines, texts, ← ih]
      simp only [bind_assoc, pure_bind, List.map_map, same]

end Outline

/-- What a renderer adds to a page, up to white space, is told by its outline. -/
theorem Renderer.Follows.texts {renderer : Renderer} {layout : Layout} {outline : Outline}
    (follows : Follows renderer layout outline) (page : Page) :
    (∃ error, outcome renderer page = .error error ∧ outline.texts = .error error) ∨
      ∃ lines, outcome renderer page = .ok (page.writeLines lines) ∧
        outline.texts = .ok (lines.map Text.trim) := by
  rw [follows, Outline.run_eq, ← Outline.map_trim_lines layout.loops]
  cases outline.lines layout.loops with
  | error error => exact .inl ⟨error, rfl, rfl⟩
  | ok lines => exact .inr ⟨lines, rfl, rfl⟩

/-- Two renderers with the same texts fail alike, or add the same lines up to white space. -/
theorem Renderer.Follows.alike {first second : Renderer} {layout layout' : Layout}
    {a b : Outline} (firsts : Follows first layout a) (seconds : Follows second layout' b)
    (same : a.texts = b.texts) (page : Page) :
    (∃ error, outcome first page = .error error ∧ outcome second page = .error error) ∨
      ∃ front back, outcome first page = .ok (page.writeLines front) ∧
        outcome second page = .ok (page.writeLines back) ∧
        front.map Text.trim = back.map Text.trim := by
  obtain ⟨error, failed, texts⟩ | ⟨front, wrote, texts⟩ := firsts.texts page
  · obtain ⟨error', failed', texts'⟩ | ⟨back, wrote', texts'⟩ := seconds.texts page
    · cases texts.symm.trans (same.trans texts')
      exact .inl ⟨error, failed, failed'⟩
    · cases texts.symm.trans (same.trans texts')
  · obtain ⟨error', failed', texts'⟩ | ⟨back, wrote', texts'⟩ := seconds.texts page
    · cases texts.symm.trans (same.trans texts')
    · have trimmed := texts.symm.trans (same.trans texts')
      exact .inr ⟨front, back, wrote, wrote', Except.ok.inj trimmed⟩

/-! ## The two layouts -/

open Renderer

/-- The lines that a flat loop writes: its head, its body on one level, and its end. -/
theorem Stmt.outcome_flat_while (game : Game) (table : DirectiveTable) (condition : Expr)
    (body : List Stmt) (page : Page) :
    outcome ((Stmt.while condition body).render ⟨game, table, .flat⟩) page =
      condition.render game >>= fun text =>
      (Stmt.outlineList game table body).lines .flat >>= fun inner =>
      pure (page.writeLines
        (["While " ++ text] ++ inner.map (Page.line 1 ∘ Text.trim) ++ ["EndWhile"])) := by
  have follows := Stmt.follows_render ⟨game, table, .flat⟩ (.while condition body)
  rw [follows, Outline.run_eq, Stmt.outline]
  simp only [Outline.lines, Outline.emitLine, keywordLine, bind_assoc, pure_bind,
    List.append_assoc]
  rfl

/-- Flat loops, as they are generated, and nested loops give the same lines up to white space, or
the same error. A flat loop at a level has its non-empty lines exactly one level deeper, whatever is
nested in it. -/
theorem Script.flat_loops_keep_texts (game : Game) (table : DirectiveTable) (script : Script) :
    ((∃ error, (script.generate game table).result = .error error ∧
        outcome (script.render ⟨game, table, .nested⟩) Page.blank = .error error) ∨
      ∃ flat nested, (script.generate game table).result = .ok flat.text ∧
        outcome (script.render ⟨game, table, .flat⟩) Page.blank = .ok flat ∧
        outcome (script.render ⟨game, table, .nested⟩) Page.blank = .ok nested ∧
        flat.lines.size = nested.lines.size ∧
        ∀ i : Nat, flat.lines[i]?.map Text.trim = nested.lines[i]?.map Text.trim) ∧
    ∀ (condition : Expr) (body : List Stmt) (page : Page),
      (∃ error, outcome ((Stmt.while condition body).render ⟨game, table, .flat⟩) page =
        .error error) ∨
      ∃ text inner, condition.render game = .ok text ∧
        outcome ((Stmt.while condition body).render ⟨game, table, .flat⟩) page =
          .ok ⟨page.indent, page.lines ++ #[Page.line page.indent ("While " ++ text)] ++ inner ++
            #[Page.line page.indent "EndWhile"]⟩ ∧
        ∀ line ∈ inner, line = "" ∨
          ∃ text, line = Page.indentation (page.indent + 1) ++ text ∧ text ≠ "" ∧
            Text.Tight text := by
  constructor
  · have flat := script.follows_render ⟨game, table, .flat⟩
    have nested := script.follows_render ⟨game, table, .nested⟩
    rw [Script.generate_result]
    obtain ⟨error, failed, failed'⟩ | ⟨front, back, wrote, wrote', same⟩ :=
      flat.alike nested rfl Page.blank
    · exact .inl ⟨error, by rw [failed]; rfl, failed'⟩
    · refine .inr ⟨_, _, by rw [wrote]; rfl, wrote, wrote', ?_, fun i => ?_⟩
      · have sizes := congrArg List.length same
        simpa [Page.lines_writeLines_blank] using sizes
      · have entries := congrArg (·[i]?) same
        simpa [Page.lines_writeLines_blank] using entries
  · intro condition body page
    rw [Stmt.outcome_flat_while]
    cases condition.render game with
    | error error => exact .inl ⟨error, rfl⟩
    | ok text =>
        cases (Stmt.outlineList game table body).lines .flat with
        | error error => exact .inl ⟨error, rfl⟩
        | ok inner =>
            let moved := inner.map fun line => Page.line (page.indent + 1) (Text.trim line)
            refine .inr ⟨text, moved.toArray, rfl, ?_, ?_⟩
            · show Except.ok _ = Except.ok _
              simp [Page.writeLines, moved, Function.comp_def, Page.line_line]
            · intro line among
              obtain ⟨raw, -, rfl⟩ := List.mem_map.mp (List.mem_toArray.mp among)
              by_cases empty : Text.trim raw = ""
              · exact .inl (by rw [empty, Page.line_empty])
              · exact .inr ⟨Text.trim raw, Page.line_of_ne _ empty, empty, Text.tight_trim raw⟩

theorem Script.patrol_keeps_texts :
    ∃ flat nested, outcome (Script.patrol.render ⟨.skyrimSE, .empty, .flat⟩) Page.blank = .ok flat ∧
      outcome (Script.patrol.render ⟨.skyrimSE, .empty, .nested⟩) Page.blank = .ok nested ∧
      flat.lines ≠ nested.lines ∧
      ∀ i : Nat, flat.lines[i]?.map Text.trim = nested.lines[i]?.map Text.trim := by
  obtain ⟨error, -, failed⟩ | ⟨flat, nested, -, wrote, wrote', -, same⟩ :=
    (Script.flat_loops_keep_texts .skyrimSE .empty Script.patrol).1
  · cases failed
  · refine ⟨flat, nested, wrote, wrote', ?_, same⟩
    cases wrote
    cases wrote'
    decide

end PapyrusWriter
