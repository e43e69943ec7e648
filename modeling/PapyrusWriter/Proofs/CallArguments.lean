import Mathlib.Data.List.Chain
import PapyrusWriter.Proofs.NameSpelling
import PapyrusWriter.Render.Expr
/-!
# Calls that are written alike

The text of a string literal is written between double quotes as it is. A quote in it can pass for
the end of the literal, so that one argument looks like two: `F("a", "b")` is the text of a call
with two literals, and of a call with the one literal `a", "b` (`Expr.calls_collide`).

A literal that is misread must go on, after the quote that passes for its end, like a call goes on
between two literals (`Expr.Gap`), until a quote can pass for the start of the next literal. That is
a quote of its own or the one that is written after it (`Expr.Imitates`). Calls without such
literals are determined by their texts, and every such literal is misread in some call
(`Expr.calls_apart`).

The first half is unique decomposition from the left. What can follow an argument is described only
as far as its first quote (`Expr.AfterArgument`), because a literal ends too early only if what
really follows it supplies the missing part of the longer one. For the second half a gap is read as
steps of a writer (`Expr.Opens`): with the same gap once more after the literal, the quotes can be
paired in two ways.
-/

namespace PapyrusWriter

set_option autoImplicit false

/-- A mark that the fronts do not have stands at one place only. -/
theorem append_cons_inj_of_absent {mark : Char} {front other : List Char} (absent : mark ∉ front)
    (absent' : mark ∉ other) {back rest : List Char}
    (same : front ++ mark :: back = other ++ mark :: rest) : front = other ∧ back = rest := by
  induction front generalizing other with
  | nil =>
      cases other with
      | nil => simpa using same
      | cons c cs =>
          obtain ⟨rfl, -⟩ := List.cons.inj same
          simp at absent'
  | cons c cs ih =>
      cases other with
      | nil =>
          obtain ⟨rfl, -⟩ := List.cons.inj same
          simp at absent
      | cons d ds =>
          simp only [List.mem_cons, not_or] at absent absent'
          obtain ⟨rfl, tails⟩ := List.cons.inj same
          obtain ⟨rfl, rfl⟩ := ih absent.2 absent'.2 tails
          exact ⟨rfl, rfl⟩

/-! ## Callees -/

namespace QualifiedName

variable {name other : QualifiedName}

/-- All segments pass the identifier check. -/
def IsAccepted (name : QualifiedName) : Prop :=
  ∀ segment ∈ name.segments, segment.isWellFormed = true

instance : DecidablePred IsAccepted := fun name =>
  inferInstanceAs (Decidable (∀ segment ∈ name.segments, segment.isWellFormed = true))

/-- A dotted name is written with letters, digits, underscores, colons and dots. -/
theorem char_of_normalized (accepted : name.IsAccepted) {c : Char}
    (member : c ∈ name.normalized.toList) :
    Identifier.IsLetterOrDigit c ∨ c = ':' ∨ c = '.' := by
  obtain ⟨segments⟩ := name
  rw [normalized] at member
  induction segments with
  | nil => simp at member
  | cons segment rest ih =>
      obtain ⟨here, later⟩ := List.forall_mem_cons.mp accepted
      have first : c ∈ segment.normalized.toList →
          Identifier.IsLetterOrDigit c ∨ c = ':' ∨ c = '.' := by
        intro among
        rcases Identifier.char_of_normalized here c among with part | colon
        · exact .inl part
        · exact .inr (.inl colon)
      cases rest with
      | nil => exact first (by simpa using member)
      | cons next rest =>
          simp only [List.map_cons, String.intercalate_cons_cons, String.toList_append,
            List.mem_append] at member
          rcases member with (among | dot) | among
          · exact first among
          · exact .inr (.inr (by simpa using dot))
          · exact ih later (by simpa using among)

/-- The characters that calls put around names and literals. -/
def isPunctuation (c : Char) : Bool := c = '(' || c = ')' || c = ',' || c = ' ' || c = '"'

theorem notMem_normalized (accepted : name.IsAccepted) {c : Char}
    (punctuation : isPunctuation c = true) : c ∉ name.normalized.toList := by
  intro member
  have cases : c = '(' ∨ c = ')' ∨ c = ',' ∨ c = ' ' ∨ c = '"' := by
    simpa [isPunctuation, or_assoc] using punctuation
  have named := char_of_normalized accepted member
  rw [← Identifier.isPartChar_iff] at named
  rcases cases with rfl | rfl | rfl | rfl | rfl <;> revert named <;> decide

/-- Only the name without segments is written as nothing. -/
theorem normalized_ne_empty (accepted : name.IsAccepted) (segmented : name.segments ≠ []) :
    name.normalized ≠ "" := by
  intro empty
  have readBack := ofSpelling_normalized segmented accepted
  -- Nothing would be read back as one empty segment, which the check rejects.
  rw [empty] at readBack
  have blank : (⟨""⟩ : Identifier) ∈ name.segments := by
    rw [← readBack]
    decide
  exact absurd (accepted _ blank) (by decide)

/-- Different names are written differently, the one without segments included. -/
theorem normalized_inj (accepted : name.IsAccepted) (accepted' : other.IsAccepted)
    (same : name.normalized = other.normalized) : name = other := by
  by_cases segmented : name.segments = []
  · by_cases segmented' : other.segments = []
    · obtain ⟨segments⟩ := name
      obtain ⟨others⟩ := other
      rw [show segments = others from segmented.trans segmented'.symm]
    · have empty : name.normalized = "" := by simp [normalized, segmented]
      exact absurd (same ▸ empty) (normalized_ne_empty accepted' segmented')
  · by_cases segmented' : other.segments = []
    · have empty : other.normalized = "" := by simp [normalized, segmented']
      exact absurd (same.trans empty) (normalized_ne_empty accepted segmented)
    · rw [← ofSpelling_normalized segmented accepted, same,
        ofSpelling_normalized segmented' accepted']

end QualifiedName

namespace Expr

/-! ## Calls and what they write between literals -/

/-- A string literal that is admitted, or a call with an accepted callee and such arguments. -/
inductive CallTree (admits : String → Prop) : Expr → Prop
  | literal {text : String} : admits text → CallTree admits (.literal (.string text))
  | call {callee : QualifiedName} {args : List Expr} : callee.IsAccepted →
      (∀ arg ∈ args, CallTree admits arg) → CallTree admits (.call callee args)

mutual

/-- What calls have between the end of an argument and the opening quote of the next literal: the
ends of calls, and then a comma. -/
inductive Gap : List Char → Prop
  | close {gap : List Char} : Gap gap → Gap (')' :: gap)
  | next {gap : List Char} : Approach gap → Gap (',' :: ' ' :: gap)

/-- The same from a place where an argument starts: the heads of calls, or whole calls without
arguments. -/
inductive Approach : List Char → Prop
  | here : Approach []
  | enter {callee : QualifiedName} {gap : List Char} : callee.IsAccepted → Approach gap →
      Approach (callee.normalized.toList ++ '(' :: gap)
  | pass {callee : QualifiedName} {gap : List Char} : callee.IsAccepted → Gap gap →
      Approach (callee.normalized.toList ++ '(' :: ')' :: gap)

end

/-- Some quote in the text is followed by a gap, up to the next quote or to the end of the text. -/
def Imitates (text : String) : Prop :=
  ∃ front gap, Gap gap ∧ (text.toList = front ++ '"' :: gap ∨
    ∃ back, text.toList = front ++ '"' :: (gap ++ '"' :: back))

theorem Gap.head? {gap : List Char} (isGap : Gap gap) :
    gap.head? = some ')' ∨ gap.head? = some ',' := by
  cases isGap with
  | close _ => exact .inl rfl
  | next _ => exact .inr rfl

/-- A text is harmless if no quote in it stands before a parenthesis or a comma. -/
theorem not_imitates_of_isChain {text : String}
    (harmless : text.toList.IsChain fun c d => c = '"' → d ≠ ')' ∧ d ≠ ',') : ¬ Imitates text := by
  rw [List.isChain_iff_forall_rel_of_append_cons_cons] at harmless
  rintro ⟨front, gap, isGap, split⟩
  obtain ⟨c, rest, rfl⟩ : ∃ c rest, gap = c :: rest := by
    cases isGap <;> exact ⟨_, _, rfl⟩
  have apart : c ≠ ')' ∧ c ≠ ',' := by
    rcases split with ends | ⟨back, goesOn⟩
    · exact harmless ends rfl
    · exact harmless goesOn rfl
  rcases isGap.head? with closing | comma
  · exact apart.1 (by simpa using closing)
  · exact apart.2 (by simpa using comma)

/-! ## What can stand where -/

/-- A text that can follow an argument: what it has before its first quote is a gap. -/
def AfterArgument (rest : List Char) : Prop :=
  ∀ gap back, '"' ∉ gap → rest = gap ++ '"' :: back → Gap gap

/-- The same for a text that starts with an argument. -/
def AtArgument (rest : List Char) : Prop :=
  ∀ gap back, '"' ∉ gap → rest = gap ++ '"' :: back → Approach gap

theorem afterArgument_nil : AfterArgument [] := by
  intro gap back _ split
  simp at split

theorem AfterArgument.close {rest : List Char} (follows : AfterArgument rest) :
    AfterArgument (')' :: rest) := by
  intro gap back quoteless split
  cases gap with
  | nil => simp at split
  | cons c gap =>
      obtain ⟨rfl, tail⟩ := List.cons.inj split
      simp only [List.mem_cons, not_or] at quoteless
      exact .close (follows gap back quoteless.2 tail)

theorem AtArgument.next {rest : List Char} (starts : AtArgument rest) :
    AfterArgument (',' :: ' ' :: rest) := by
  intro gap back quoteless split
  match gap with
  | [] => simp at split
  | [c] => simp at split
  | c :: d :: gap =>
      simp only [List.cons_append, List.cons.injEq] at split
      obtain ⟨rfl, rfl, tail⟩ := split
      simp only [List.mem_cons, not_or] at quoteless
      exact .next (starts gap back quoteless.2.2 tail)

theorem atArgument_quote (rest : List Char) : AtArgument ('"' :: rest) := by
  intro gap back quoteless split
  cases gap with
  | nil => exact .here
  | cons c gap =>
      obtain ⟨rfl, -⟩ := List.cons.inj split
      simp at quoteless

section Head

variable {callee : QualifiedName} (accepted : callee.IsAccepted) {rest : List Char}

include accepted

/-- Before the first quote stands the whole head of a call. -/
theorem gap_of_head {gap back : List Char} (quoteless : '"' ∉ gap)
    (split : callee.normalized.toList ++ '(' :: rest = gap ++ '"' :: back) :
    ∃ inner, gap = callee.normalized.toList ++ '(' :: inner ∧ rest = inner ++ '"' :: back := by
  have plain : '"' ∉ callee.normalized.toList := callee.notMem_normalized accepted rfl
  rcases List.append_eq_append_iff.mp split with ⟨more, rfl, tail⟩ | ⟨more, whole, tail⟩
  · cases more with
    | nil => simp at tail
    | cons c inner =>
        obtain ⟨rfl, rfl⟩ := List.cons.inj tail
        exact ⟨inner, rfl, rfl⟩
  · -- The quote would belong to the name or be the parenthesis after it.
    cases more with
    | nil => simp at tail
    | cons c more =>
        obtain ⟨rfl, -⟩ := List.cons.inj tail
        simp [whole] at plain

theorem AtArgument.enter (starts : AtArgument rest) :
    AtArgument (callee.normalized.toList ++ '(' :: rest) := by
  intro gap back quoteless split
  obtain ⟨inner, rfl, tail⟩ := gap_of_head accepted quoteless split
  simp only [List.mem_append, List.mem_cons, not_or] at quoteless
  exact .enter accepted (starts inner back quoteless.2.2 tail)

theorem AfterArgument.pass (follows : AfterArgument rest) :
    AtArgument (callee.normalized.toList ++ '(' :: ')' :: rest) := by
  intro gap back quoteless split
  obtain ⟨inner, rfl, tail⟩ := gap_of_head accepted quoteless split
  cases inner with
  | nil => simp at tail
  | cons c inner =>
      obtain ⟨rfl, last⟩ := List.cons.inj tail
      simp only [List.mem_append, List.mem_cons, not_or] at quoteless
      exact .pass accepted (follows inner back quoteless.2.2.2 last)

end Head

/-! ## Texts of calls -/

/-- The end of a call from one of its arguments on: the other arguments and the parenthesis. -/
def closing : List String → List Char
  | [] => [')']
  | text :: rest => ',' :: ' ' :: (text.toList ++ closing rest)

/-- The arguments of a call with the parenthesis after them. -/
def argumentsText : List String → List Char
  | [] => [')']
  | text :: rest => text.toList ++ closing rest

theorem toList_intercalate_closing (text : String) (rest : List String) :
    (", ".intercalate (text :: rest)).toList ++ [')'] = text.toList ++ closing rest := by
  induction rest generalizing text with
  | nil => simp [closing]
  | cons next rest ih =>
      rw [String.intercalate_cons_cons, String.toList_append, List.append_assoc, ih next]
      simp [closing]

section Render

variable {game : Game} {admits : String → Prop}

theorem toList_text_string (held : String) :
    (Literal.string held).text.toList = '"' :: (held.toList ++ ['"']) := by
  simp [Literal.text]

theorem render_literal_eq_ok {held text : String}
    (rendered : (Expr.literal (.string held)).render game = .ok text) :
    text.toList = '"' :: (held.toList ++ ['"']) := by
  cases rendered
  exact toList_text_string held

/-- A call is written as soon as its arguments are. -/
theorem render_call_eq_ok {callee : QualifiedName} {args : List Expr} {text : String}
    (rendered : (Expr.call callee args).render game = .ok text) :
    ∃ texts, Expr.renderList game args = .ok texts ∧
      text.toList = callee.normalized.toList ++ '(' :: argumentsText texts := by
  rw [Expr.render] at rendered
  cases written : Expr.renderList game args with
  | error error =>
      rw [written] at rendered
      cases rendered
  | ok texts =>
      rw [written] at rendered
      cases rendered
      refine ⟨texts, rfl, ?_⟩
      cases texts with
      | nil => simp [argumentsText]
      | cons text rest =>
          have tail := toList_intercalate_closing text rest
          simp only [String.toList_append, List.append_assoc] at tail ⊢
          rw [argumentsText]
          simpa using tail

theorem renderList_cons_eq_ok {arg : Expr} {args : List Expr} {texts : List String}
    (rendered : Expr.renderList game (arg :: args) = .ok texts) :
    ∃ text rest, arg.render game = .ok text ∧ Expr.renderList game args = .ok rest ∧
      texts = text :: rest := by
  rw [Expr.renderList] at rendered
  cases first : arg.render game with
  | error error =>
      rw [first] at rendered
      cases rendered
  | ok text =>
      cases others : Expr.renderList game args with
      | error error =>
          rw [first, others] at rendered
          cases rendered
      | ok rest =>
          rw [first, others] at rendered
          cases rendered
          exact ⟨text, rest, rfl, rfl, rfl⟩

/-- Calls are always written. -/
theorem CallTree.exists_text {expr : Expr} (tree : CallTree admits expr) :
    ∃ text, expr.render game = .ok text := by
  induction tree with
  | literal _ => exact ⟨_, rfl⟩
  | @call callee args _ _ ih =>
      have all : ∃ texts, Expr.renderList game args = .ok texts := by
        clear * - ih
        induction args with
        | nil => exact ⟨[], rfl⟩
        | cons arg args rest =>
            obtain ⟨text, first⟩ := ih arg List.mem_cons_self
            obtain ⟨texts, others⟩ := rest fun later among =>
              ih later (List.mem_cons_of_mem _ among)
            exact ⟨text :: texts, by rw [Expr.renderList, first, others]; rfl⟩
      obtain ⟨texts, written⟩ := all
      exact ⟨_, by rw [Expr.render, written]; rfl⟩

/-- What follows one argument of a call leads to the next literal through a gap. -/
theorem afterArgument_closing {args : List Expr}
    (starts : ∀ arg ∈ args, ∀ {text : String}, arg.render game = .ok text →
      ∀ {rest : List Char}, AfterArgument rest → AtArgument (text.toList ++ rest))
    {texts : List String} (written : Expr.renderList game args = .ok texts) {rest : List Char}
    (follows : AfterArgument rest) : AfterArgument (closing texts ++ rest) := by
  induction args generalizing texts with
  | nil =>
      cases written
      exact follows.close
  | cons arg args ih =>
      obtain ⟨text, others, first, later, rfl⟩ := renderList_cons_eq_ok written
      obtain ⟨here, there⟩ := List.forall_mem_cons.mp starts
      have tail : AfterArgument (closing others ++ rest) := ih there later
      have next := (here first tail).next
      simpa [closing] using next

theorem CallTree.atArgument {expr : Expr} (tree : CallTree admits expr) {text : String}
    (rendered : expr.render game = .ok text) {rest : List Char} (follows : AfterArgument rest) :
    AtArgument (text.toList ++ rest) := by
  induction tree generalizing text rest with
  | literal _ =>
      rw [render_literal_eq_ok rendered, List.cons_append]
      exact atArgument_quote _
  | @call callee args accepted _ ih =>
      obtain ⟨texts, written, form⟩ := render_call_eq_ok rendered
      rw [form, List.append_assoc, List.cons_append]
      cases args with
      | nil =>
          cases written
          exact follows.pass accepted
      | cons arg args =>
          obtain ⟨first, others, head, later, rfl⟩ := renderList_cons_eq_ok written
          obtain ⟨here, there⟩ := List.forall_mem_cons.mp ih
          have tail := afterArgument_closing there later follows
          have starts := here head tail
          rw [← List.append_assoc] at starts
          exact starts.enter accepted

end Render

/-! ## Unique decomposition -/

/-- A literal that goes on where another one ends takes the gap after that one into its text. -/
theorem imitates_of_longer {text : String} {front more rest back : List Char}
    (follows : AfterArgument rest) (longer : text.toList = front ++ '"' :: more)
    (split : rest = more ++ '"' :: back) : Imitates text := by
  by_cases quoted : '"' ∈ more
  · obtain ⟨gap, inner, rfl, quoteless⟩ := List.eq_append_cons_of_mem quoted
    have isGap : Gap gap := follows gap (inner ++ '"' :: back) quoteless (by simp [split])
    exact ⟨front, gap, isGap, .inr ⟨inner, longer⟩⟩
  · exact ⟨front, more, follows more back quoted split, .inl longer⟩

theorem literal_inj {text other : String} (plain : ¬ Imitates text) (plain' : ¬ Imitates other)
    {rest rest' : List Char} (follows : AfterArgument rest) (follows' : AfterArgument rest')
    (same : text.toList ++ '"' :: rest = other.toList ++ '"' :: rest') :
    text = other ∧ rest = rest' := by
  rcases List.append_eq_append_iff.mp same with ⟨more, longer, tail⟩ | ⟨more, longer, tail⟩
  · cases more with
    | nil => exact ⟨String.toList_injective (by simpa using longer.symm), by simpa using tail⟩
    | cons c more =>
        obtain ⟨rfl, split⟩ := List.cons.inj tail
        exact absurd (imitates_of_longer follows longer split) plain'
  · cases more with
    | nil => exact ⟨String.toList_injective (by simpa using longer), by simpa using tail.symm⟩
    | cons c more =>
        obtain ⟨rfl, split⟩ := List.cons.inj tail
        exact absurd (imitates_of_longer follows' longer split) plain

/-- No call starts with a quote or with a closing parenthesis. -/
theorem head?_call_ne {callee : QualifiedName} (accepted : callee.IsAccepted) {c : Char}
    (punctuation : QualifiedName.isPunctuation c = true) (closed : c ≠ '(') (rest : List Char) :
    (callee.normalized.toList ++ '(' :: rest).head? ≠ some c := by
  intro starts
  have absent : c ∉ callee.normalized.toList := callee.notMem_normalized accepted punctuation
  cases spelled : callee.normalized.toList with
  | nil =>
      rw [spelled] at starts
      exact closed (by simpa using starts.symm)
  | cons d ds =>
      rw [spelled] at starts absent
      have same : d = c := by simpa using starts
      simp [same] at absent

theorem call_ne_quote {callee : QualifiedName} (accepted : callee.IsAccepted)
    (rest back : List Char) : callee.normalized.toList ++ '(' :: rest ≠ '"' :: back := by
  intro same
  have quote : (callee.normalized.toList ++ '(' :: rest).head? = some '"' := by
    rw [same]
    rfl
  exact head?_call_ne accepted rfl (by decide) rest quote

theorem CallTree.head?_ne {game : Game} {admits : String → Prop} {expr : Expr}
    (tree : CallTree admits expr) {text : String} (rendered : expr.render game = .ok text)
    (rest : List Char) : (text.toList ++ rest).head? ≠ some ')' := by
  cases tree with
  | literal _ =>
      rw [render_literal_eq_ok rendered]
      simp
  | call accepted _ =>
      obtain ⟨texts, -, form⟩ := render_call_eq_ok rendered
      rw [form, List.append_assoc, List.cons_append]
      exact head?_call_ne accepted rfl (by decide) _

/-- Wherever the text of the expression is followed by what can follow an argument, no other call or
literal can be read instead. -/
def IsDetermined (game : Game) (first : Expr) : Prop :=
  ∀ {second : Expr}, CallTree (¬ Imitates ·) second → ∀ {text other : String},
    first.render game = .ok text → second.render game = .ok other →
    ∀ {rest rest' : List Char}, AfterArgument rest → AfterArgument rest' →
      text.toList ++ rest = other.toList ++ rest' → first = second ∧ rest = rest'

section Decomposition

variable {game : Game}

theorem isDetermined_literal {text : String} (plain : ¬ Imitates text) :
    IsDetermined game (.literal (.string text)) := by
  intro second tree written other rendered rendered' rest rest' follows follows' same
  rw [render_literal_eq_ok rendered] at same
  cases tree with
  | @literal held plain' =>
      rw [render_literal_eq_ok rendered'] at same
      have inner : text.toList ++ '"' :: rest = held.toList ++ '"' :: rest' := by simpa using same
      obtain ⟨rfl, rfl⟩ := literal_inj plain plain' follows follows' inner
      exact ⟨rfl, rfl⟩
  | @call callee args accepted _ =>
      obtain ⟨texts, -, form⟩ := render_call_eq_ok rendered'
      rw [form, List.append_assoc] at same
      exact absurd same.symm (call_ne_quote accepted _ _)

variable {args others : List Expr} (determined : ∀ arg ∈ args, IsDetermined game arg)
  (trees : ∀ arg ∈ args, CallTree (¬ Imitates ·) arg)
  (trees' : ∀ arg ∈ others, CallTree (¬ Imitates ·) arg) {texts texts' : List String}
  (written : Expr.renderList game args = .ok texts)
  (written' : Expr.renderList game others = .ok texts') {rest rest' : List Char}
  (follows : AfterArgument rest) (follows' : AfterArgument rest')

include determined trees trees' written written' follows follows'

/-- The arguments after the first one are read one after the other. -/
theorem closing_inj (same : closing texts ++ rest = closing texts' ++ rest') :
    args = others ∧ rest = rest' := by
  induction args generalizing others texts texts' with
  | nil =>
      cases written
      cases others with
      | nil =>
          cases written'
          exact ⟨rfl, by simpa [closing] using same⟩
      | cons other others =>
          obtain ⟨_, _, -, -, rfl⟩ := renderList_cons_eq_ok written'
          simp [closing] at same
  | cons arg args ih =>
      obtain ⟨text, more, first, later, rfl⟩ := renderList_cons_eq_ok written
      cases others with
      | nil =>
          cases written'
          simp [closing] at same
      | cons other others =>
          obtain ⟨text', more', first', later', rfl⟩ := renderList_cons_eq_ok written'
          obtain ⟨here, there⟩ := List.forall_mem_cons.mp determined
          obtain ⟨-, tails⟩ := List.forall_mem_cons.mp trees
          obtain ⟨tree', tails'⟩ := List.forall_mem_cons.mp trees'
          have tail : AfterArgument (closing more ++ rest) :=
            afterArgument_closing (fun arg among => (tails arg among).atArgument) later follows
          have tail' : AfterArgument (closing more' ++ rest') :=
            afterArgument_closing (fun arg among => (tails' arg among).atArgument) later' follows'
          have inner : text.toList ++ (closing more ++ rest) =
              text'.toList ++ (closing more' ++ rest') := by
            simpa [closing] using same
          obtain ⟨rfl, ends⟩ := here tree' first first' tail tail' inner
          obtain ⟨rfl, rfl⟩ := ih there tails tails' later later' ends
          exact ⟨rfl, rfl⟩

theorem argumentsText_inj (same : argumentsText texts ++ rest = argumentsText texts' ++ rest') :
    args = others ∧ rest = rest' := by
  cases args with
  | nil =>
      cases written
      cases others with
      | nil =>
          cases written'
          exact ⟨rfl, by simpa [argumentsText] using same⟩
      | cons other others =>
          obtain ⟨text, more, first, -, rfl⟩ := renderList_cons_eq_ok written'
          have closed : (text.toList ++ (closing more ++ rest')).head? = some ')' := by
            rw [← List.append_assoc, ← argumentsText, ← same]
            rfl
          exact absurd closed ((trees' other List.mem_cons_self).head?_ne first _)
  | cons arg args =>
      obtain ⟨text, more, first, later, rfl⟩ := renderList_cons_eq_ok written
      cases others with
      | nil =>
          cases written'
          have closed : (text.toList ++ (closing more ++ rest)).head? = some ')' := by
            rw [← List.append_assoc, ← argumentsText, same]
            rfl
          exact absurd closed ((trees arg List.mem_cons_self).head?_ne first _)
      | cons other others =>
          obtain ⟨text', more', first', later', rfl⟩ := renderList_cons_eq_ok written'
          -- With a comma before it, the first argument is one like the others.
          refine closing_inj determined trees trees' written written' follows follows' ?_
          simpa [argumentsText, closing] using same

end Decomposition

/-- Step by step from the arguments to the call. -/
theorem CallTree.isDetermined {game : Game} {first : Expr} (tree : CallTree (¬ Imitates ·) first) :
    IsDetermined game first := by
  induction tree with
  | literal plain => exact isDetermined_literal plain
  | @call callee args accepted trees ih =>
      intro second tree' text other rendered rendered' rest rest' follows follows' same
      obtain ⟨texts, written, form⟩ := render_call_eq_ok rendered
      rw [form, List.append_assoc, List.cons_append] at same
      cases tree' with
      | literal _ =>
          rw [render_literal_eq_ok rendered'] at same
          exact absurd same (call_ne_quote accepted _ _)
      | @call callee' args' accepted' trees' =>
          obtain ⟨texts', written', form'⟩ := render_call_eq_ok rendered'
          rw [form', List.append_assoc, List.cons_append] at same
          have names := callee.notMem_normalized accepted (c := '(') rfl
          have names' := callee'.notMem_normalized accepted' (c := '(') rfl
          obtain ⟨spelled, arguments⟩ := append_cons_inj_of_absent names names' same
          obtain rfl := QualifiedName.normalized_inj accepted accepted'
            (String.toList_injective spelled)
          obtain ⟨rfl, rfl⟩ :=
            argumentsText_inj ih trees trees' written written' follows follows' arguments
          exact ⟨rfl, rfl⟩

/-! ## Literals that can be mistaken -/

mutual

/-- The string literals of a call, from left to right. -/
def literals : Expr → List String
  | .literal (.string text) => [text]
  | .call _ args => listLiterals args
  | _ => []

def listLiterals : List Expr → List String
  | [] => []
  | arg :: rest => literals arg ++ listLiterals rest

end

/-- Calls that are not finished: what is written of them, how many parentheses are still missing,
and the literals so far. -/
inductive Opens (game : Game) : List Char → Nat → List String → Prop
  | start : Opens game [] 0 []
  | enter {front : List Char} {depth : Nat} {held : List String} {callee : QualifiedName} :
      Opens game front depth held → callee.IsAccepted →
      Opens game (front ++ (callee.normalized.toList ++ ['('])) (depth + 1) held
  | next {front : List Char} {depth : Nat} {held : List String} {arg : Expr} {text : String} :
      Opens game front (depth + 1) held → CallTree (fun _ => True) arg →
      arg.render game = .ok text →
      Opens game (front ++ (text.toList ++ [',', ' '])) (depth + 1) (held ++ arg.literals)

namespace Opens

variable {game : Game} {front : List Char} {depth : Nat} {held : List String}

/-- The innermost call is finished with the arguments that are still to be written, and is an
argument itself from then on. -/
theorem close (opens : Opens game front (depth + 1) held) {arg : Expr} {args : List Expr}
    (trees : ∀ each ∈ arg :: args, CallTree (fun _ => True) each) {text : String}
    {texts : List String} (first : arg.render game = .ok text)
    (written : Expr.renderList game args = .ok texts) :
    ∃ outer before expr whole, Opens game outer depth before ∧ CallTree (fun _ => True) expr ∧
      expr.render game = .ok whole ∧
      outer ++ whole.toList = front ++ (text.toList ++ closing texts) ∧
      before ++ expr.literals = held ++ listLiterals (arg :: args) := by
  generalize same : depth + 1 = level at opens
  induction opens generalizing arg args text texts with
  | start => cases same
  | @enter front inner held callee opens accepted _ =>
      obtain rfl : depth = inner := by omega
      have all : Expr.renderList game (arg :: args) = .ok (text :: texts) := by
        rw [Expr.renderList, first, written]
        rfl
      obtain ⟨whole, rendered⟩ :
          ∃ whole, (Expr.call callee (arg :: args)).render game = .ok whole :=
        (CallTree.call accepted trees).exists_text
      obtain ⟨texts', all', form⟩ := render_call_eq_ok rendered
      obtain rfl : text :: texts = texts' := Except.ok.inj (all.symm.trans all')
      refine ⟨front, held, _, whole, opens, .call accepted trees, rendered, ?_, rfl⟩
      rw [form, argumentsText]
      simp
  | @next front inner held earlier spelled opens tree rendered ih =>
      have more : Expr.renderList game (arg :: args) = .ok (text :: texts) := by
        rw [Expr.renderList, first, written]
        rfl
      obtain ⟨outer, before, expr, whole, opened, tree', rendered', form, lits⟩ :=
        ih (List.forall_mem_cons.mpr ⟨tree, trees⟩) rendered more same
      refine ⟨outer, before, expr, whole, opened, tree', rendered', ?_, ?_⟩
      · rw [form, closing]
        simp
      · rw [lits, listLiterals, List.append_assoc]

/-- All calls are finished after one more argument. -/
theorem complete (opens : Opens game front depth held) {arg : Expr} {text : String}
    (tree : CallTree (fun _ => True) arg) (rendered : arg.render game = .ok text) :
    ∃ expr whole, CallTree (fun _ => True) expr ∧ expr.render game = .ok whole ∧
      whole.toList = front ++ (text.toList ++ List.replicate depth ')') ∧
      expr.literals = held ++ arg.literals := by
  induction depth generalizing front held arg text with
  | zero =>
      cases opens
      exact ⟨arg, text, tree, rendered, by simp, by simp⟩
  | succ depth ih =>
      have alone : ∀ each ∈ [arg], CallTree (fun _ => True) each := by simpa using tree
      obtain ⟨outer, before, expr, inner, opened, tree', rendered', form, lits⟩ :=
        opens.close alone rendered rfl
      obtain ⟨last, whole, tree'', rendered'', form', lits'⟩ := ih opened tree' rendered'
      refine ⟨last, whole, tree'', rendered'', ?_, ?_⟩
      · rw [form', ← List.append_assoc, form, closing, List.replicate_succ]
        simp
      · rw [lits', lits, listLiterals, listLiterals, List.append_nil]

/-- Calls can be nested to any depth. -/
theorem exists_front (game : Game) (depth : Nat) : ∃ front, Opens game front depth [] := by
  induction depth with
  | zero => exact ⟨[], .start⟩
  | succ depth ih =>
      obtain ⟨front, opens⟩ := ih
      have accepted : QualifiedName.IsAccepted ⟨[⟨"F"⟩]⟩ := by decide
      exact ⟨_, opens.enter accepted⟩

end Opens

theorem count_parentheses {callee : QualifiedName} (accepted : callee.IsAccepted)
    (gap : List Char) :
    (callee.normalized.toList ++ '(' :: gap).count '(' = gap.count '(' + 1 ∧
      (callee.normalized.toList ++ '(' :: gap).count ')' = gap.count ')' := by
  have opening : callee.normalized.toList.count '(' = 0 :=
    List.count_eq_zero.mpr (callee.notMem_normalized accepted rfl)
  have ending : callee.normalized.toList.count ')' = 0 :=
    List.count_eq_zero.mpr (callee.notMem_normalized accepted rfl)
  constructor
  · rw [List.count_append, opening, List.count_cons_self, Nat.zero_add]
  · rw [List.count_append, ending, List.count_cons_of_ne (by decide), Nat.zero_add]

mutual

/-- Every gap occurs in calls that are nested deep enough. The depth after it does not depend on the
argument before it. -/
theorem Gap.opens {game : Game} : ∀ {gap : List Char}, Gap gap → ∀ {front depth held},
    Opens game front depth held → ∀ {arg : Expr} {text : String}, CallTree (fun _ => True) arg →
    arg.render game = .ok text → gap.count ')' < depth →
    ∃ after, after + gap.count ')' = depth + gap.count '(' ∧
      Opens game (front ++ (text.toList ++ gap)) after (held ++ arg.literals)
  | _, @Gap.close gap inner, front, depth, held, opens, arg, text, tree, rendered, deep => by
      rw [List.count_cons_self] at deep
      obtain ⟨depth, rfl⟩ : ∃ less, depth = less + 1 := ⟨depth - 1, by omega⟩
      have alone : ∀ each ∈ [arg], CallTree (fun _ => True) each := by simpa using tree
      obtain ⟨outer, before, expr, whole, opened, tree', rendered', form, lits⟩ :=
        opens.close alone rendered rfl
      obtain ⟨after, balance, goesOn⟩ := Gap.opens inner opened tree' rendered' (by omega)
      refine ⟨after, ?_, ?_⟩
      · rw [List.count_cons_self, List.count_cons_of_ne (by decide)]
        omega
      · rw [← List.append_assoc, form, lits, listLiterals, listLiterals, closing] at goesOn
        simpa using goesOn
  | _, @Gap.next gap inner, front, depth, held, opens, arg, text, tree, rendered, deep => by
      simp only [List.count_cons_of_ne (show ',' ≠ ')' by decide),
        List.count_cons_of_ne (show ' ' ≠ ')' by decide),
        List.count_cons_of_ne (show ',' ≠ '(' by decide),
        List.count_cons_of_ne (show ' ' ≠ '(' by decide)] at deep ⊢
      obtain ⟨depth, rfl⟩ : ∃ less, depth = less + 1 := ⟨depth - 1, by omega⟩
      obtain ⟨after, balance, goesOn⟩ := Approach.opens inner (opens.next tree rendered) deep
      refine ⟨after, balance, ?_⟩
      simpa using goesOn

theorem Approach.opens {game : Game} : ∀ {gap : List Char}, Approach gap → ∀ {front depth held},
    Opens game front depth held → gap.count ')' < depth →
    ∃ after, after + gap.count ')' = depth + gap.count '(' ∧ Opens game (front ++ gap) after held
  | _, .here, front, depth, held, opens, _ => by
      exact ⟨depth, rfl, by simpa using opens⟩
  | _, @Approach.enter callee gap accepted inner, front, depth, held, opens, deep => by
      obtain ⟨opening, ending⟩ := count_parentheses accepted gap
      rw [ending] at deep
      obtain ⟨after, balance, goesOn⟩ :=
        Approach.opens inner (opens.enter accepted) (by omega)
      refine ⟨after, by omega, ?_⟩
      simpa using goesOn
  | _, @Approach.pass callee gap accepted inner, front, depth, held, opens, deep => by
      obtain ⟨opening, ending⟩ := count_parentheses accepted (')' :: gap)
      rw [List.count_cons_self] at ending
      rw [List.count_cons_of_ne (by decide)] at opening
      rw [ending] at deep
      have tree : CallTree (fun _ => True) (.call callee []) := .call accepted (by simp)
      obtain ⟨text, rendered⟩ : ∃ text, (Expr.call callee []).render game = .ok text :=
        tree.exists_text
      obtain ⟨texts, written, form⟩ := render_call_eq_ok rendered
      cases written
      obtain ⟨after, balance, goesOn⟩ := Gap.opens inner opens tree rendered (by omega)
      refine ⟨after, by omega, ?_⟩
      rw [form, argumentsText] at goesOn
      simpa [literals, listLiterals] using goesOn

end

/-- A literal that imitates a gap can be read as two literals: put before that gap, it leaves what
it has too much to the literal after the gap. -/
theorem exists_mistaken {text : String} (imitates : Imitates text) (game : Game) :
    ∃ first second : Expr, CallTree (fun _ => True) first ∧ CallTree (fun _ => True) second ∧
      first.literals = [text, ""] ∧ first ≠ second ∧ first.render game = second.render game := by
  obtain ⟨front, gap, isGap, split⟩ := imitates
  obtain ⟨tail, last, form, shifted⟩ : ∃ tail last : List Char,
      text.toList = front ++ '"' :: (gap ++ tail) ∧
        tail ++ '"' :: (gap ++ ['"']) = '"' :: last := by
    rcases split with ends | ⟨back, goesOn⟩
    · exact ⟨[], _, by simpa using ends, rfl⟩
    · exact ⟨'"' :: back, _, goesOn, rfl⟩
  obtain ⟨outer, opens⟩ := Opens.exists_front game (gap.count ')' + 1)
  have literal : ∀ held : String, CallTree (fun _ => True) (.literal (.string held)) :=
    fun _ => .literal trivial
  obtain ⟨after, balance, opens₁⟩ := isGap.opens opens (literal text) rfl (by omega)
  obtain ⟨after', balance', opens₂⟩ := isGap.opens opens (literal (String.ofList front)) rfl
    (by omega)
  obtain rfl : after = after' := by omega
  obtain ⟨first, whole, tree₁, rendered₁, text₁, lits₁⟩ := opens₁.complete (literal "") rfl
  obtain ⟨second, whole', tree₂, rendered₂, text₂, lits₂⟩ :=
    opens₂.complete (literal (String.ofList last)) rfl
  refine ⟨first, second, tree₁, tree₂, by simpa [literals] using lits₁, ?_, ?_⟩
  · rintro rfl
    have same : text = String.ofList front := by
      have both := lits₁.symm.trans lits₂
      simp only [literals, List.nil_append, List.cons_append, List.cons.injEq] at both
      exact both.1
    have lengths := congrArg List.length (form.symm.trans (congrArg String.toList same))
    simp at lengths
  · rw [rendered₁, rendered₂]
    refine congrArg _ (String.toList_injective ?_)
    have moved := congrArg (· ++ '"' :: List.replicate after ')') shifted
    simp only [toList_text_string, String.toList_ofList] at text₁ text₂
    rw [text₁, text₂, form]
    simpa using moved

/-! ## The texts of calls -/

/-- Every call is written. Two calls with the same text are the same call, unless a literal in one
of them has a quote after which it imitates what stands between two literals; such a quote stands
before a comma or a closing parenthesis. Each such literal occurs in a call that has the text of
another one. -/
theorem calls_apart (game : Game) :
    (∀ expr : Expr, CallTree (fun _ => True) expr → ∃ text, expr.render game = .ok text) ∧
    (∀ first second : Expr, CallTree (¬ Imitates ·) first → CallTree (¬ Imitates ·) second →
      first.render game = second.render game → first = second) ∧
    (∀ text : String, (text.toList.IsChain fun c d => c = '"' → d ≠ ')' ∧ d ≠ ',') →
      ¬ Imitates text) ∧
    ∀ text : String, Imitates text → ∃ first second : Expr,
      CallTree (fun _ => True) first ∧ CallTree (fun _ => True) second ∧
        first.literals = [text, ""] ∧ first ≠ second ∧
        first.render game = second.render game := by
  refine ⟨fun expr tree => tree.exists_text, ?_, fun text => not_imitates_of_isChain,
    fun text imitates => exists_mistaken imitates game⟩
  intro first second tree tree' same
  obtain ⟨text, rendered⟩ : ∃ text, first.render game = .ok text := tree.exists_text
  have rendered' : second.render game = .ok text := same ▸ rendered
  exact (tree.isDetermined tree' rendered rendered' afterArgument_nil afterArgument_nil rfl).1

/-- A call with a call in it, whose literals have quotes, commas and parentheses. -/
def remark (callee : QualifiedName) : Expr :=
  .call callee
    [.literal (.string "say \"no\" (twice), or"),
      .call ⟨[⟨"Pick"⟩]⟩ [.literal (.string "), G("), .literal (.string "\"")]]

theorem callTree_remark (callee : QualifiedName) (accepted : callee.IsAccepted) :
    CallTree (¬ Imitates ·) (remark callee) := by
  have inner : CallTree (¬ Imitates ·) (.call ⟨[⟨"Pick"⟩]⟩
      [.literal (.string "), G("), .literal (.string "\"")]) := by
    refine .call (by decide) ?_
    simp only [List.forall_mem_cons]
    refine ⟨.literal (not_imitates_of_isChain ?_), .literal (not_imitates_of_isChain ?_),
      List.forall_mem_nil _⟩ <;> decide
  refine .call accepted ?_
  simp only [List.forall_mem_cons]
  exact ⟨.literal (not_imitates_of_isChain (by decide)), inner, List.forall_mem_nil _⟩

/-- The literal that looks like two. -/
theorem imitates_pair : Imitates "a\", \"b" :=
  ⟨['a'], [',', ' '], .next .here, .inr ⟨['b'], rfl⟩⟩

theorem calls_apart_remark :
    CallTree (¬ Imitates ·) (remark (.ofString "MyMod::Utils.Log")) ∧
      (remark (.ofString "MyMod::Utils.Log")).render .fallout4 = .ok
        "MyMod:Utils.Log(\"say \"no\" (twice), or\", Pick(\"), G(\", \"\"\"))" ∧
      remark (.ofString "MyMod::Utils.Log") = remark ⟨[⟨"MyMod::Utils"⟩, ⟨"Log"⟩]⟩ ∧
      ¬ Imitates "\"no\" (twice), or" ∧ Imitates "a\", \"b" ∧
      ∃ first second : Expr, first.literals = ["a\", \"b", ""] ∧ first ≠ second ∧
        first.render .fallout4 = second.render .fallout4 := by
  obtain ⟨-, apart, harmless, mistaken⟩ := calls_apart .fallout4
  have tree := callTree_remark (.ofString "MyMod::Utils.Log") (by decide)
  have tree' := callTree_remark ⟨[⟨"MyMod::Utils"⟩, ⟨"Log"⟩]⟩ (by decide)
  obtain ⟨first, second, -, -, held, differ, same⟩ := mistaken _ imitates_pair
  exact ⟨tree, by decide, apart _ _ tree tree' (by decide), harmless _ (by decide), imitates_pair,
    first, second, held, differ, same⟩

/-- A call with nothing but literals. -/
def listing (held : List String) : Expr :=
  .call ⟨[⟨"F"⟩]⟩ (held.map fun text => .literal (.string text))

theorem callTree_listing (held : List String) : CallTree (fun _ => True) (listing held) := by
  refine .call (by decide) fun arg among => ?_
  obtain ⟨text, -, rfl⟩ := List.mem_map.mp among
  exact .literal trivial

/-- Without a condition on the literals the text does not determine the call: one argument is
written like two. -/
theorem calls_collide :
    CallTree (fun _ => True) (listing ["a", "b"]) ∧
      CallTree (fun _ => True) (listing ["a\", \"b"]) ∧
      (listing ["a", "b"]).render .skyrimSE = .ok "F(\"a\", \"b\")" ∧
      (listing ["a\", \"b"]).render .skyrimSE = .ok "F(\"a\", \"b\")" ∧
      listing ["a", "b"] ≠ listing ["a\", \"b"] := by
  refine ⟨callTree_listing _, callTree_listing _, by decide, by decide, ?_⟩
  intro same
  exact absurd (congrArg literals same) (by decide)

end Expr

end PapyrusWriter
