import PapyrusWriter.Proofs.Outline
/-!
# Rendering at a depth

The lines of an outline do not depend on the page: `lines` gives them for the outermost level, and
carrying out an outline on a page adds these lines, each of them moved to the level of the page
(`run_eq`). The level itself is as before. So

* rendering statements or members shifts with the depth and only appends (`DepthEquivariant`);
* the end of a body is always reached one level below its head, and never on the outermost level,
  where `Page.exit` would have nothing to take away: layouts that differ only in what they do there
  render alike (`Script.outcome_render_congr`).
-/

namespace PapyrusWriter

set_option autoImplicit false

namespace Page

theorem indentation_append (outer inner : Nat) :
    indentation outer ++ indentation inner = indentation (outer + inner) := by
  simp only [indentation, ← String.ofList_append, List.replicate_append_replicate, Nat.mul_add]

theorem line_empty (level : Nat) : line level "" = "" := rfl

theorem line_of_ne {text : String} (level : Nat) (filled : text ≠ "") :
    line level text = indentation level ++ text :=
  if_neg filled

theorem line_zero (text : String) : line 0 text = text := by
  by_cases filled : text = ""
  · rw [filled, line_empty]
  · rw [line_of_ne 0 filled]
    exact String.empty_append

/-- Levels add up, and an empty line has none. -/
theorem line_line (outer inner : Nat) (text : String) :
    line outer (line inner text) = line (outer + inner) text := by
  by_cases filled : text = ""
  · rw [filled, line_empty, line_empty, line_empty]
  · have indented : indentation inner ++ text ≠ "" := by
      intro empty
      exact filled (String.append_eq_empty_iff.mp empty).2
    rw [line_of_ne inner filled, line_of_ne outer indented, line_of_ne _ filled,
      ← String.append_assoc, indentation_append]

/-- The page with more lines, each at the level of the page. -/
def writeLines (page : Page) (lines : List String) : Page :=
  { page with lines := page.lines ++ (lines.map (line page.indent)).toArray }

theorem writeLines_nil (page : Page) : page.writeLines [] = page := by
  simp [writeLines]

theorem writeLines_append (page : Page) (front back : List String) :
    page.writeLines (front ++ back) = (page.writeLines front).writeLines back := by
  simp [writeLines]

theorem emit_eq_writeLines (page : Page) (text : String) :
    page.emit text = page.writeLines [text] := by
  simp [emit, writeLines]

theorem foldl_emit (page : Page) (texts : List String) :
    texts.foldl emit page = page.writeLines texts := by
  induction texts generalizing page with
  | nil => rw [List.foldl_nil, writeLines_nil]
  | cons text rest ih =>
      rw [List.foldl_cons, ih, emit_eq_writeLines, ← writeLines_append, List.singleton_append]

/-- The blank page has no indentation. -/
theorem lines_writeLines_blank (lines : List String) :
    (blank.writeLines lines).lines = lines.toArray := by
  have same : line 0 = id := funext line_zero
  simp [writeLines, blank, same]

/-- A body between `enter` and `exit` is a body moved by one level. -/
theorem exit_writeLines_enter (page : Page) (lines : List String) :
    (page.enter.writeLines lines).exit = page.writeLines (lines.map (line 1)) := by
  have moved : line (page.indent + 1) = line page.indent ∘ line 1 := by
    funext text
    exact (line_line page.indent 1 text).symm
  simp [writeLines, enter, exit, moved]

end Page

namespace Outline

/-- A line of a loop's body, seen from the head of the loop. -/
def loopLine : LoopLayout → String → String
  | .flat, text => Page.line 1 (Text.trim text)
  | .nested, text => Page.line 1 text

/-- The lines of an outline on the outermost level, or its error. -/
def lines (loops : LoopLayout) : Outline → Except TranspileError (List String)
  | .skip => pure []
  | .emit text => pure [text]
  | .need value next => value >>= fun text => (next text).lines loops
  | .seq first second =>
      first.lines loops >>= fun front => second.lines loops >>= fun back => pure (front ++ back)
  | .indented body => body.lines loops >>= fun inner => pure (inner.map (Page.line 1))
  | .loop body => body.lines loops >>= fun inner => pure (inner.map (loopLine loops))

/-- The end of a body is reached below the outermost level. -/
theorem leave_writeLines_enter (layout : Layout) (page : Page) (lines : List String) :
    layout.leave (page.enter.writeLines lines) =
      .ok (page.writeLines (lines.map (Page.line 1))) := by
  rw [layout.leave_eq _ (Nat.succ_pos page.indent), Page.exit_writeLines_enter]

/-- An outline writes the same lines everywhere, but for the level of the page. -/
theorem run_eq (layout : Layout) (outline : Outline) (page : Page) :
    outline.run layout page =
      outline.lines layout.loops >>= fun lines => pure (page.writeLines lines) := by
  induction outline generalizing page with
  | skip => exact congrArg Except.ok page.writeLines_nil.symm
  | emit text => exact congrArg Except.ok (page.emit_eq_writeLines text)
  | need value next ih =>
      cases value with
      | error error => rfl
      | ok text => exact ih text page
  | seq first second firstIh secondIh =>
      rw [run, firstIh, lines]
      cases first.lines layout.loops with
      | error error => rfl
      | ok front =>
          show second.run layout (page.writeLines front) = _
          rw [secondIh]
          cases second.lines layout.loops with
          | error error => rfl
          | ok back => exact congrArg Except.ok (page.writeLines_append front back).symm
  | indented body ih =>
      rw [run, ih, lines]
      cases body.lines layout.loops with
      | error error => rfl
      | ok inner => exact leave_writeLines_enter layout page inner
  | loop body ih =>
      rw [run, lines]
      cases same : layout.loops with
      | flat =>
          simp only [ih, same]
          cases body.lines .flat with
          | error error => rfl
          | ok inner =>
              show layout.leave _ = Except.ok _
              rw [Page.lines_writeLines_blank, Page.foldl_emit, leave_writeLines_enter,
                List.map_map]
              rfl
      | nested =>
          simp only [ih, same]
          cases body.lines .nested with
          | error error => rfl
          | ok inner => exact leave_writeLines_enter layout page inner

end Outline

namespace Renderer

/-- The renderer does the same at every depth: it fails alike everywhere, and where it succeeds, it
adds to the page what it writes on the blank page, moved by the level of the page. Empty lines stay
empty. -/
structure DepthEquivariant (renderer : Renderer) : Prop where
  fails_iff : ∀ (page : Page) (error : TranspileError),
    outcome renderer page = .error error ↔ outcome renderer Page.blank = .error error
  appends : ∀ page written : Page, outcome renderer Page.blank = .ok written →
    outcome renderer page =
      .ok ⟨page.indent, page.lines ++ written.lines.map fun line =>
        if line = "" then "" else String.ofList (List.replicate (4 * page.indent) ' ') ++ line⟩

theorem Follows.depthEquivariant {renderer : Renderer} {layout : Layout} {outline : Outline}
    (follows : Follows renderer layout outline) : renderer.DepthEquivariant := by
  have writes : ∀ page, outcome renderer page =
      outline.lines layout.loops >>= fun lines => pure (page.writeLines lines) := by
    intro page
    rw [follows, Outline.run_eq]
  cases result : outline.lines layout.loops with
  | error error =>
      have fails : ∀ page, outcome renderer page = .error error := by
        intro page
        rw [writes, result]
        rfl
      refine ⟨fun page other => ?_, fun page written succeeded => ?_⟩
      · rw [fails, fails]
      · rw [fails] at succeeded
        cases succeeded
  | ok lines =>
      have succeeds : ∀ page, outcome renderer page = .ok (page.writeLines lines) := by
        intro page
        rw [writes, result]
        rfl
      refine ⟨fun page error => ?_, fun page written succeeded => ?_⟩
      · rw [succeeds, succeeds]
        exact iff_of_false nofun nofun
      · rw [succeeds] at succeeded
        cases succeeded
        rw [succeeds, Page.lines_writeLines_blank, List.map_toArray]
        rfl

end Renderer

open Renderer (outcome)

/-- No body of a script ends on the outermost level: what `leave` does there does not matter. -/
theorem Script.outcome_render_congr (script : Script) {target other : Target}
    (game : target.game = other.game) (directives : target.directives = other.directives)
    (loops : target.layout.loops = other.layout.loops) :
    outcome (script.render target) = outcome (script.render other) := by
  funext page
  rw [script.follows_render target, script.follows_render other, Outline.run_eq, Outline.run_eq,
    game, directives, loops]

/-- A generated script is the lines of its outline. -/
theorem Script.generate_eq_lines (game : Game) (table : DirectiveTable) (script : Script) :
    (script.generate game table).result = Page.text <$> ((script.outline game table).lines .flat >>=
      fun lines => pure (Page.blank.writeLines lines)) := by
  rw [Script.generate_result, script.follows_render ⟨game, table, .flat⟩, Outline.run_eq]
  rfl

/-- Statements and members are rendered at every depth as on the blank page, but for the
indentation. No body ends on the outermost level: whatever `leave` does there in the place of
`Page.exit`, even if it fails, rendering a script comes to the text that is generated. -/
theorem rendering_shifts_with_depth (target : Target) :
    (∀ body : List Stmt, (Stmt.renderList target body).DepthEquivariant) ∧
      (∀ members : List Member, (Member.renderList target members).DepthEquivariant) ∧
      ∀ (script : Script) (leave : Page → Except TranspileError Page)
        (agrees : ∀ page, 0 < page.indent → leave page = .ok page.exit),
          (script.generate target.game target.directives).result =
            Page.text <$> outcome
              (script.render ⟨target.game, target.directives, ⟨.flat, leave, agrees⟩⟩)
              Page.blank := by
  refine ⟨fun body => (Stmt.follows_renderList target body).depthEquivariant,
    fun members => (Member.follows_renderList target members).depthEquivariant, ?_⟩
  intro script leave agrees
  have same : outcome (script.render ⟨target.game, target.directives, .flat⟩) =
      outcome (script.render ⟨target.game, target.directives, ⟨.flat, leave, agrees⟩⟩) :=
    script.outcome_render_congr rfl rfl rfl
  rw [Script.generate_result, same]

def Stmt.patrol : List Stmt :=
  [.while (.name ⟨[⟨"active"⟩]⟩) [.ifElse (.name ⟨[⟨"done"⟩]⟩) [.ret none] [] none]]

def Script.patrol : Script where
  name := ⟨"Guard"⟩
  parent := ⟨"Actor"⟩
  flags := []
  members := [.event ⟨⟨"OnInit"⟩, [], Stmt.patrol⟩]

/-- Refuses to leave the outermost level. -/
def Page.exitStrictly (page : Page) : Except TranspileError Page :=
  if page.indent = 0 then .error (.unknownGame "") else .ok page.exit

theorem Page.exitStrictly_eq (page : Page) (inside : 0 < page.indent) :
    page.exitStrictly = .ok page.exit :=
  if_neg (Nat.ne_of_gt inside)

theorem patrol_shifts_with_depth :
    outcome (Stmt.renderList ⟨.skyrimSE, .empty, .flat⟩ Stmt.patrol) ⟨2, #["", "State Busy"]⟩ =
        .ok ⟨2, #["", "State Busy",
          "        While active",
          "            If done",
          "            Return",
          "            EndIf",
          "        EndWhile"]⟩ ∧
      (Script.patrol.generate .skyrimSE .empty).result =
        Page.text <$> outcome
          (Script.patrol.render
            ⟨.skyrimSE, .empty, ⟨.flat, Page.exitStrictly, Page.exitStrictly_eq⟩⟩)
          Page.blank := by
  have shifts := rendering_shifts_with_depth ⟨.skyrimSE, .empty, .flat⟩
  refine ⟨?_, shifts.2.2 Script.patrol Page.exitStrictly Page.exitStrictly_eq⟩
  have moved := (shifts.1 Stmt.patrol).appends ⟨2, #["", "State Busy"]⟩
    ⟨0, #["While active", "    If done", "    Return", "    EndIf", "EndWhile"]⟩ rfl
  rw [moved, List.map_toArray]
  rfl

end PapyrusWriter
