import PapyrusWriter.Proofs.Rewriting
/-!
# A switch is its chain of comparisons

A `switch` with cases is rendered like the `if` that compares the subject with the value of each
case by `==`, the default being the `else` part. The `if` renders the subject anew for every
comparison; since rendering an expression depends on nothing but the game, it gives the same text
each time, and if it fails, it fails at the first comparison, where the `switch` fails too
(`Expr.keywordLine_binary`).

Without cases there is nothing to compare. The subject is still rendered, for the errors in it, and
the statements of the default are left where the `switch` stands.
-/

namespace PapyrusWriter

set_option autoImplicit false

/-- A case as a branch of an `if`: the subject is compared with the value of the case. -/
def Branch.comparing (subject : Expr) : Branch → Branch
  | .mk value body => .mk (.binary subject "==" value) body

/-- The rule that puts an `if` in the place of a `switch` with cases. -/
def Stmt.unswitch : Stmt → List Stmt
  | .switch subject (.mk value body :: cases) default =>
      [.ifElse (.binary subject "==" value) body (cases.map (Branch.comparing subject)) default]
  | stmt => [stmt]

/-- The script with chains of `if` in the place of all `switch` statements with cases. -/
def Script.unswitch (script : Script) : Script := script.rewrite Stmt.unswitch

example (outer inner one two : Expr) :
    Stmt.rewriteList Stmt.unswitch
        [.switch outer [.mk one [.switch inner [.mk two []] none], .mk two []] (some [])] =
      [.ifElse (.binary outer "==" one) [.ifElse (.binary inner "==" two) [] [] none]
        [.mk (.binary outer "==" two) []] (some [])] := rfl

section Chains

variable (game : Game) (table : DirectiveTable) (view : LineView)

/-- A comparison renders its subject first, and then like a case with the text of the subject. -/
theorem Expr.keywordLine_binary (keyword : String) (subject value : Expr) :
    keywordLine game keyword (.binary subject "==" value) =
      subject.render game >>= fun text =>
        keywordLine game (keyword ++ " " ++ text ++ " ==") value := by
  have joined : ∀ left right : String,
      keyword ++ " " ++ (left ++ " " ++ "==" ++ " " ++ right) =
        keyword ++ " " ++ left ++ " ==" ++ " " ++ right := by
    intro left right
    have spaced : " " ++ "==" = " ==" := rfl
    simp only [String.append_assoc, ← spaced]
  unfold keywordLine
  rw [Expr.render]
  simp only [bind_assoc, pure_bind, joined]

theorem Stmt.seenBy_comparing {subject : Expr} {text : String}
    (rendered : subject.render game = .ok text) (cases : List Branch) :
    (Stmt.outlineElseIfs game table (cases.map (Branch.comparing subject))).seenBy view =
      (Stmt.outlineCases game table text cases).seenBy view := by
  induction cases with
  | nil => rfl
  | cons branch rest ih =>
      obtain ⟨value, body⟩ := branch
      have head : keywordLine game "ElseIf" (.binary subject "==" value) =
          keywordLine game ("ElseIf " ++ text ++ " ==") value := by
        rw [Expr.keywordLine_binary, rendered]
        rfl
      rw [List.map_cons, Branch.comparing, Stmt.outlineElseIfs, Stmt.outlineCases, head]
      exact Outline.seenBy_seq_congr rfl (Outline.seenBy_seq_congr rfl ih)

theorem Stmt.unswitch_kept : view.KeptBy game table Stmt.unswitch := by
  intro stmt
  fun_cases Stmt.unswitch stmt with
  | case2 stmt _ => exact Stmt.seenBy_outlineList_singleton game table view stmt
  | case1 subject value body cases default =>
      rw [Stmt.seenBy_outlineList_singleton, Stmt.outline, Stmt.outline, Expr.keywordLine_binary]
      cases rendered : subject.render game with
      | error error => rfl
      | ok text =>
          refine Outline.seenBy_seq_congr rfl (Outline.seenBy_seq_congr rfl ?_)
          exact Outline.seenBy_seq_congr (Stmt.seenBy_comparing game table view rendered cases) rfl

end Chains

open Renderer

/-- Chains of `if` in the place of all `switch` statements with cases generate the same text or the
same error. A `switch` without cases whose subject can be rendered does to every page what the
statements of its default do. -/
theorem Script.generate_unswitch (game : Game) (table : DirectiveTable) (script : Script) :
    (script.unswitch.generate game table).result = (script.generate game table).result ∧
    ∀ (subject : Expr) (default : Option (List Stmt)) (text : String),
      subject.render game = .ok text → ∀ page : Page,
        outcome ((Stmt.switch subject [] default).render ⟨game, table, .flat⟩) page =
          outcome (Stmt.renderList ⟨game, table, .flat⟩ (default.getD [])) page := by
  refine ⟨Script.generate_rewrite (Stmt.unswitch_kept game table _) script, ?_⟩
  intro subject default text rendered page
  rw [Stmt.render, outcome_lift, rendered]
  cases default <;> rfl

/-- A `switch` inside a case of another one, in a loop. -/
def Stmt.evening : List Stmt :=
  [.while (.name ⟨[⟨"open"⟩]⟩)
    [.switch (.name ⟨[⟨"stage"⟩]⟩)
      [.mk (.literal (.int "1"))
        [.switch (.name ⟨[⟨"Inn::mood"⟩]⟩) [.mk (.literal (.string "calm")) [.ret none]] none],
      .mk (.literal (.int "2")) [.expr (.increment ⟨[⟨"guests"⟩]⟩)]]
      (some [.expr (.call ⟨[⟨"Close"⟩]⟩ [])])]]

def Script.innkeeper : Script where
  name := ⟨"Innkeeper"⟩
  parent := ⟨"Actor"⟩
  flags := []
  members := [.event ⟨⟨"OnUpdate"⟩, [], Stmt.evening⟩]

theorem Script.innkeeper_unswitch :
    (Script.innkeeper.unswitch.generate .skyrimSE .empty).result =
        .ok (Page.text ⟨0, #["ScriptName Innkeeper extends Actor", "", "Event OnUpdate()",
          "    While open",
          "        If stage == 1",
          "        If Inn:mood == \"calm\"",
          "        Return",
          "        EndIf",
          "        ElseIf stage == 2",
          "        guests += 1",
          "        Else",
          "        Close()",
          "        EndIf",
          "    EndWhile",
          "EndEvent", ""]⟩) ∧
      (Expr.name ⟨[⟨"stage"⟩]⟩).render .skyrimSE = .ok "stage" ∧
      outcome ((Stmt.switch (.name ⟨[⟨"stage"⟩]⟩) [] (some [.ret none])).render
          ⟨.skyrimSE, .empty, .flat⟩) ⟨1, #["While open"]⟩ =
        .ok ⟨1, #["While open", "    Return"]⟩ := by
  obtain ⟨chained, caseless⟩ := Script.generate_unswitch .skyrimSE .empty Script.innkeeper
  refine ⟨?_, rfl, ?_⟩
  · have wrote : outcome (Script.innkeeper.render ⟨.skyrimSE, .empty, .flat⟩) Page.blank =
        .ok ⟨0, _⟩ := rfl
    rw [chained, Script.generate_result, wrote]
    rfl
  · rw [caseless (.name ⟨[⟨"stage"⟩]⟩) (some [.ret none]) "stage" rfl]
    rfl

end PapyrusWriter
