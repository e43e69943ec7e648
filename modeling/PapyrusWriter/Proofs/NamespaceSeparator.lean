import Mathlib.Data.List.Chain
import PapyrusWriter.Proofs.Flattening
import PapyrusWriter.Proofs.IdentifierCheck
/-!
# No namespace separator is left

A generated script spells a namespace with one colon. If the identifiers of a script are well
formed, its literals and operators have no two colons side by side, and its import paths no three,
then the whole generated text has no two colons side by side (`Script.generate_separatorFree`).

Two pieces of text can only make a new pair of colons where they meet. So besides the texts without
a pair (`SeparatorFree`) there are those that also do not end in a colon (`Closed`): anything
without a pair may follow them. Whatever a renderer writes between two pieces has no colon at all
(`isMark`) and closes the text before it.
-/

namespace PapyrusWriter

set_option autoImplicit false

/-! ## Texts without a pair of colons -/

namespace Text

/-- No two colons stand side by side. -/
def SeparatorFree (text : String) : Prop := ¬ [':', ':'] <:+: text.toList

/-- Neighbours that are not both colons. -/
def Apart (first second : Char) : Prop := first = ':' → second ≠ ':'

theorem separatorFree_iff (text : String) : SeparatorFree text ↔ text.toList.IsChain Apart := by
  rw [List.isChain_iff_forall_rel_of_append_cons_cons]
  constructor
  · rintro free first second front back split rfl rfl
    exact free ⟨front, back, by simp [split]⟩
  · rintro apart ⟨front, back, split⟩
    have pair : text.toList = front ++ ':' :: ':' :: back := by simp [← split]
    exact apart pair rfl rfl

/-- A new pair can only arise where the two texts meet. -/
theorem separatorFree_append {front back : String} :
    SeparatorFree (front ++ back) ↔ SeparatorFree front ∧ SeparatorFree back ∧
      ∀ a ∈ front.toList.getLast?, ∀ b ∈ back.toList.head?, Apart a b := by
  rw [separatorFree_iff, separatorFree_iff, separatorFree_iff, String.toList_append,
    List.isChain_append]

theorem separatorFree_of_notMem {text : String} (colonless : ':' ∉ text.toList) :
    SeparatorFree text := by
  rintro ⟨front, back, split⟩
  exact colonless (by simp [← split])

theorem separatorFree_empty : SeparatorFree "" := separatorFree_of_notMem (by simp)

theorem separatorFree_of_infix {text part : String} (free : SeparatorFree text)
    (within : part.toList <:+: text.toList) : SeparatorFree part :=
  fun pair => free (pair.trans within)

/-- Not empty, and without a colon. -/
def isMark (text : String) : Bool :=
  !text.toList.isEmpty && !text.toList.contains ':'

theorem isMark_iff (text : String) : isMark text = true ↔ text.toList ≠ [] ∧ ':' ∉ text.toList := by
  simp [isMark]

/-- Without a pair of colons, and not at the end in a colon. -/
structure Closed (text : String) : Prop where
  free : SeparatorFree text
  last : text.toList.getLast? ≠ some ':'

theorem closed_empty : Closed "" := ⟨separatorFree_empty, by simp⟩

theorem Closed.append {front back : String} (closed : Closed front) (free : SeparatorFree back) :
    SeparatorFree (front ++ back) := by
  refine separatorFree_append.mpr ⟨closed.free, free, ?_⟩
  rintro a last b - rfl
  exact absurd last closed.last

theorem Closed.append_closed {front back : String} (closed : Closed front)
    (closed' : Closed back) : Closed (front ++ back) := by
  refine ⟨closed.append closed'.free, fun last => ?_⟩
  rw [String.toList_append, List.getLast?_append, Option.or_eq_some_iff] at last
  rcases last with last | ⟨-, last⟩
  · exact closed'.last last
  · exact closed.last last

theorem closed_of_isMark {mark : String} (isMark : isMark mark = true) : Closed mark := by
  obtain ⟨-, colonless⟩ := (isMark_iff mark).mp isMark
  exact ⟨separatorFree_of_notMem colonless, fun last => colonless (List.mem_of_getLast? last)⟩

theorem SeparatorFree.close {text mark : String} (free : SeparatorFree text)
    (isMark : isMark mark = true) : Closed (text ++ mark) := by
  obtain ⟨filled, colonless⟩ := (isMark_iff mark).mp isMark
  have separate : ∀ a ∈ text.toList.getLast?, ∀ b ∈ mark.toList.head?, Apart a b := by
    rintro a - b first - rfl
    exact colonless (List.mem_of_head? first)
  have last : (text ++ mark).toList.getLast? = mark.toList.getLast? := by
    rw [String.toList_append, List.getLast?_append_of_ne_nil _ filled]
  refine ⟨separatorFree_append.mpr ⟨free, (closed_of_isMark isMark).free, separate⟩, ?_⟩
  rw [last]
  exact (closed_of_isMark isMark).last

/-- Texts with a mark between them. -/
theorem SeparatorFree.glue {front mark back : String} (fronts : SeparatorFree front)
    (backs : SeparatorFree back) (isMark : isMark mark = true) :
    SeparatorFree (front ++ mark ++ back) :=
  (fronts.close isMark).append backs

theorem separatorFree_intercalate {mark : String} (isMark : isMark mark = true)
    (texts : List String) (free : ∀ text ∈ texts, SeparatorFree text) :
    SeparatorFree (mark.intercalate texts) := by
  induction texts with
  | nil => exact separatorFree_empty
  | cons text rest ih =>
      rw [List.forall_mem_cons] at free
      cases rest with
      | nil => simpa using free.1
      | cons next others =>
          rw [String.intercalate_cons_cons]
          exact free.1.glue (ih free.2) isMark

theorem separatorFree_trim {text : String} (free : SeparatorFree text) :
    SeparatorFree (trim text) := by
  refine separatorFree_of_infix free ?_
  rw [trim, String.toList_ofList, trimList_eq]
  exact (List.rdropWhile_prefix _ _).isInfix.trans (List.dropWhile_suffix _).isInfix

theorem separatorFree_toString (n : Nat) : SeparatorFree (toString n) := by
  refine separatorFree_of_notMem fun colon => ?_
  rw [Nat.toString_eq_repr, Nat.repr, String.toList_ofList] at colon
  exact absurd (Nat.isDigit_of_mem_toDigits (by decide) (by decide) colon) (by decide)

/-! ## Pairs of colons become one colon -/

/-- Every pair of colons replaced by one colon, from left to right. -/
def collapse : List Char → List Char
  | ':' :: ':' :: cs => ':' :: collapse cs
  | c :: cs => c :: collapse cs
  | [] => []

theorem replaceFrom_eq_collapse (cs : List Char) :
    replaceFrom [':', ':'] [':'] 0 cs = collapse cs := by
  fun_induction collapse cs with
  | case1 cs ih => simpa [replaceFrom] using ih
  | case2 c cs single ih =>
      have unmatched : [':', ':'].isPrefixOf (c :: cs) = false := by
        rw [Bool.eq_false_iff]
        intro pair
        obtain ⟨rest, split⟩ := List.isPrefixOf_iff_prefix.mp pair
        obtain ⟨rfl, rfl⟩ := List.cons.inj split
        exact single rest rfl rfl
      rw [replaceFrom, unmatched, ih]
      rfl
  | case3 => rfl

theorem head?_collapse (cs : List Char) : (collapse cs).head? = cs.head? := by
  fun_cases collapse cs <;> rfl

theorem getLast?_collapse (cs : List Char) : (collapse cs).getLast? = cs.getLast? := by
  fun_induction collapse cs with
  | case1 cs ih => simp [List.getLast?_cons, ih]
  | case2 c cs _ ih => simp [List.getLast?_cons, ih]
  | case3 => rfl

/-- Without three colons in a row, no two of them are left. -/
theorem isChain_collapse (cs : List Char) (few : ¬ [':', ':', ':'] <:+: cs) :
    (collapse cs).IsChain Apart := by
  fun_induction collapse cs with
  | case1 cs ih =>
      refine List.isChain_cons.mpr ⟨fun c first _ => ?_, ih fun three => ?_⟩
      · rintro rfl
        rw [head?_collapse] at first
        obtain ⟨rest, rfl⟩ := List.head?_eq_some_iff.mp first
        exact few ⟨[], rest, rfl⟩
      · exact few (three.trans ⟨[':', ':'], [], by simp⟩)
  | case2 c cs single ih =>
      refine List.isChain_cons.mpr ⟨?_, ih fun three => few (three.trans ⟨[c], [], by simp⟩)⟩
      rintro d first rfl rfl
      rw [head?_collapse] at first
      obtain ⟨rest, rfl⟩ := List.head?_eq_some_iff.mp first
      exact single rest rfl rfl
  | case3 => exact .nil

theorem separatorFree_replaceAll {text : String} (few : ¬ [':', ':', ':'] <:+: text.toList) :
    SeparatorFree (replaceAll "::" ":" text) := by
  rw [separatorFree_iff, replaceAll, String.toList_ofList]
  exact replaceFrom_eq_collapse text.toList ▸ isChain_collapse text.toList few

end Text

open Text (SeparatorFree Closed separatorFree_of_notMem closed_of_isMark)

/-! ## Names -/

theorem Identifier.getLast?_of_wellFormedFrom (start : Bool) (cs : List Char)
    (accepted : wellFormedFrom start cs = true) : cs.getLast? ≠ some ':' := by
  fun_induction wellFormedFrom start cs with
  | case1 start =>
      intro last
      cases last
  | case2 c cs ih =>
      rw [Bool.and_eq_true] at accepted
      cases cs with
      | nil =>
          rintro ⟨⟩
          exact absurd accepted.1 (by decide)
      | cons d cs => simpa [List.getLast?_cons] using ih accepted.2
  | case3 cs ih =>
      cases cs with
      | nil => cases accepted
      | cons d cs => simpa [List.getLast?_cons] using ih accepted
  | case4 c cs _ ih =>
      rw [Bool.and_eq_true] at accepted
      cases cs with
      | nil =>
          rintro ⟨⟩
          exact absurd accepted.1 (by decide)
      | cons d cs => simpa [List.getLast?_cons] using ih accepted.2

/-- A well-formed identifier has pairs of colons only, and none at its end. -/
theorem Identifier.closed_normalized {name : Identifier} (formed : name.isWellFormed = true) :
    Closed name.normalized := by
  constructor
  · refine Text.separatorFree_replaceAll ?_
    rintro ⟨front, back, split⟩
    have paired := colonPaired_of_wellFormedFrom true _ formed front (':' :: ':' :: back)
      (split.symm.trans (by simp))
    exact paired.2 back rfl
  · rw [normalized, Text.replaceAll, String.toList_ofList]
    show (Text.replaceFrom [':', ':'] [':'] 0 name.raw.toList).getLast? ≠ some ':'
    rw [Text.replaceFrom_eq_collapse, Text.getLast?_collapse]
    exact getLast?_of_wellFormedFrom true _ formed

theorem TypeRef.closed_text {type : TypeRef} (formed : type.name.isWellFormed = true) :
    Closed type.text := by
  have name := Identifier.closed_normalized formed
  unfold text
  cases type.array with
  | true => exact name.free.close rfl
  | false => exact name.append_closed Text.closed_empty

/-! ## What is asked of a script -/

/-- The text of a literal, where it has one of its own. -/
def Literal.written : Literal → List String
  | .int text => [text]
  | .float text => [text]
  | .string text => [text]
  | .bool _ => []
  | .none => []

namespace TreePart

/-- The texts of the source that a part itself brings along unchanged: those of its literals and its
operator. -/
def verbatim : TreePart → List String
  | .expr (.literal value) => value.written
  | .expr (.arrayInit elements) => elements.flatMap Literal.written
  | .expr (.binary _ op _) => [op]
  | .expr (.assign _ op _) => [op]
  | _ => []

/-- The path of an import. -/
def imports : TreePart → List String
  | .member (.importScript path) => [path]
  | _ => []

/-- The part is the whole, or somewhere inside of it. -/
def Within (part whole : TreePart) : Prop := ∃ path, whole.at? path = some part

/-- All parts have the property. -/
def Everywhere (P : TreePart → Prop) (whole : TreePart) : Prop :=
  ∀ part : TreePart, part.Within whole → P part

theorem everywhere_iff (P : TreePart → Prop) (whole : TreePart) :
    Everywhere P whole ↔ P whole ∧ ∀ child ∈ whole.children, Everywhere P child := by
  constructor
  · intro all
    refine ⟨all whole ⟨[], rfl⟩, fun child among part ⟨path, here⟩ => ?_⟩
    obtain ⟨i, at_i⟩ := List.mem_iff_getElem?.mp among
    refine all part ⟨i :: path, ?_⟩
    rw [at?, at_i]
    exact here
  · rintro ⟨whole, below⟩ part ⟨path, here⟩
    cases path with
    | nil =>
        cases here
        exact whole
    | cons i path =>
        rw [at?, Option.bind_eq_bind, Option.bind_eq_some_iff] at here
        obtain ⟨child, at_i, there⟩ := here
        exact below child (List.mem_of_getElem? at_i) part ⟨path, there⟩

variable {P : TreePart → Prop} {whole : TreePart}

theorem Everywhere.here (all : Everywhere P whole) : P whole :=
  ((everywhere_iff P whole).mp all).1

theorem Everywhere.below (all : Everywhere P whole) :
    ∀ child ∈ whole.children, Everywhere P child :=
  ((everywhere_iff P whole).mp all).2

/-- Tests all parts, to a depth. -/
def holdsTo (test : TreePart → Bool) : Nat → TreePart → Bool
  | 0, _ => false
  | depth + 1, part => test part && part.children.all (holdsTo test depth)

theorem everywhere_of_holdsTo {test : TreePart → Bool} (depth : Nat) (part : TreePart)
    (holds : holdsTo test depth part = true) : Everywhere (test · = true) part := by
  induction depth generalizing part with
  | zero => cases holds
  | succ depth ih =>
      rw [holdsTo, Bool.and_eq_true, List.all_eq_true] at holds
      exact (everywhere_iff _ _).mpr ⟨holds.1, fun child among => ih child (holds.2 child among)⟩

/-- Nothing in the part itself gives rise to two colons side by side. -/
structure Proper (part : TreePart) : Prop where
  verbatim : ∀ text ∈ part.verbatim, SeparatorFree text
  imports : ∀ path ∈ part.imports, ¬ [':', ':', ':'] <:+: (Text.stripQuotes path).toList
  formed : ∀ occurrence, part = .identifier occurrence → occurrence.name.isWellFormed = true

end TreePart

open TreePart (Everywhere Proper)

theorem Literal.separatorFree_text {literal : Literal}
    (free : ∀ text ∈ literal.written, SeparatorFree text) : SeparatorFree literal.text := by
  cases literal with
  | int text => exact free text (by simp [written])
  | float text => exact free text (by simp [written])
  | string text =>
      have inner := free text (by simp [written])
      exact (((closed_of_isMark rfl).append inner).close rfl).free
  | bool value => cases value <;> exact (closed_of_isMark rfl).free
  | none => exact (closed_of_isMark rfl).free

theorem Identifier.closed_of_proper {role : Role} {name : Identifier}
    (proper : Everywhere Proper (.identifier ⟨role, name⟩)) : Closed name.normalized :=
  closed_normalized (proper.here.formed _ rfl)

theorem QualifiedName.separatorFree_normalized {role : Role} {name : QualifiedName}
    (proper : Everywhere Proper (.qualified role name)) : SeparatorFree name.normalized := by
  refine Text.separatorFree_intercalate rfl _ fun text among => ?_
  obtain ⟨segment, member, rfl⟩ := List.mem_map.mp among
  have part := proper.below (.identifier ⟨role, segment⟩) (List.mem_map_of_mem member)
  exact (Identifier.closed_of_proper part).free

theorem TypeRef.closed_of_proper {type : TypeRef} (proper : Everywhere Proper (.type type)) :
    Closed type.text :=
  closed_text ((proper.below _ (.head _)).here.formed _ rfl)

/-! ## Expressions and declarations -/

/-- The value, if there is one, has the property. -/
def Gives {ε α : Type} (result : Except ε α) (P : α → Prop) : Prop := ∀ a, result = .ok a → P a

namespace Gives

variable {ε α β : Type} {P : α → Prop} {Q : β → Prop}

theorem pure {a : α} (holds : P a) : Gives (Pure.pure a : Except ε α) P := by
  rintro _ ⟨⟩
  exact holds

theorem error (error : ε) : Gives (.error error : Except ε α) P := nofun

theorem bind {result : Except ε α} {next : α → Except ε β} (first : Gives result P)
    (rest : ∀ a, P a → Gives (next a) Q) : Gives (result >>= next) Q := by
  cases result with
  | ok a => exact rest a (first a rfl)
  | error cause => exact error cause

/-- A check gives no value of interest. -/
theorem after {result : Except ε α} {next : α → Except ε β} (rest : ∀ a, Gives (next a) Q) :
    Gives (result >>= next) Q :=
  bind (fun _ _ => trivial) fun a (_ : True) => rest a

end Gives

section Rendering

variable (game : Game)

mutual

theorem Expr.gives_render : ∀ expr : Expr, Everywhere Proper (.expr expr) →
    Gives (expr.render game) SeparatorFree
  | .literal _, proper => .pure (Literal.separatorFree_text proper.here.verbatim)
  | .name _, proper => .pure (QualifiedName.separatorFree_normalized (proper.below _ (.head _)))
  | .binary lhs op rhs, proper => by
      have operator : SeparatorFree op := proper.here.verbatim op (.head _)
      refine (Expr.gives_render lhs (proper.below _ (.head _))).bind fun left lefts => ?_
      have right := proper.below _ (.tail _ (.head _))
      refine (Expr.gives_render rhs right).bind fun _ rights => ?_
      exact .pure ((lefts.glue operator rfl).glue rights rfl)
  | .not operand, proper =>
      (Expr.gives_render operand (proper.below _ (.head _))).bind fun _ free =>
        .pure ((closed_of_isMark rfl).append free)
  | .negate operand, proper =>
      (Expr.gives_render operand (proper.below _ (.head _))).bind fun _ free =>
        .pure ((closed_of_isMark rfl).append free)
  | .paren inner, proper =>
      (Expr.gives_render inner (proper.below _ (.head _))).bind fun _ free =>
        .pure (((closed_of_isMark rfl).append free).close rfl).free
  | .assign target op value, proper => by
      have operator : SeparatorFree op := proper.here.verbatim op (.head _)
      refine (Expr.gives_render target (proper.below _ (.head _))).bind fun left lefts => ?_
      have values := proper.below _ (.tail _ (.head _))
      refine (Expr.gives_render value values).bind fun right rights => ?_
      exact .pure ((lefts.glue operator rfl).glue rights rfl)
  | .call callee args, proper => by
      obtain ⟨callees, others⟩ := List.forall_mem_cons.mp proper.below
      refine (Expr.gives_renderList args others).bind fun texts free => ?_
      have list : SeparatorFree (", ".intercalate texts) :=
        Text.separatorFree_intercalate rfl texts free
      exact .pure (((QualifiedName.separatorFree_normalized callees).glue list rfl).close rfl).free
  | .index array position, proper =>
      (Expr.gives_render array (proper.below _ (.head _))).bind fun _ lefts =>
        (Expr.gives_render position (proper.below _ (.tail _ (.head _)))).bind fun _ rights =>
          .pure ((lefts.glue rights rfl).close rfl).free
  | .newArray elementType size, proper => by
      have type := TypeRef.closed_of_proper (proper.below _ (.head _))
      refine (Expr.gives_render size (proper.below _ (.tail _ (.head _)))).bind fun text free => ?_
      exact .pure ((((closed_of_isMark rfl).append type.free).glue free rfl).close rfl).free
  | .newStruct structType, proper =>
      .after fun _ => .pure
        ((closed_of_isMark rfl).append (TypeRef.closed_of_proper (proper.below _ (.head _))).free)
  | .arrayInit _, _ => .error _
  | .structInit _, _ => .after fun _ => .error _
  | .cast operand target, proper =>
      (Expr.gives_render operand (proper.below _ (.head _))).bind fun _ free =>
        .pure (free.glue (TypeRef.closed_of_proper (proper.below _ (.tail _ (.head _)))).free rfl)
  | .is operand target, proper =>
      (Expr.gives_render operand (proper.below _ (.head _))).bind fun _ free =>
        .pure (free.glue (TypeRef.closed_of_proper (proper.below _ (.tail _ (.head _)))).free rfl)
  | .increment _, proper =>
      .pure ((QualifiedName.separatorFree_normalized (proper.below _ (.head _))).close rfl).free
  | .decrement _, proper =>
      .pure ((QualifiedName.separatorFree_normalized (proper.below _ (.head _))).close rfl).free

theorem Expr.gives_renderList : ∀ exprs : List Expr,
    (∀ part ∈ exprs.map TreePart.expr, Everywhere Proper part) →
    Gives (Expr.renderList game exprs) (∀ text ∈ ·, SeparatorFree text)
  | [], _ => .pure nofun
  | expr :: rest, proper => by
      obtain ⟨first, others⟩ := List.forall_mem_cons.mp proper
      refine (Expr.gives_render expr first).bind fun text free => ?_
      refine (Expr.gives_renderList rest others).bind fun texts frees => ?_
      exact .pure (List.forall_mem_cons.mpr ⟨free, frees⟩)

end

theorem keywordLine_gives {keyword : String} (expr : Expr) (free : SeparatorFree keyword)
    (proper : Everywhere Proper (.expr expr)) :
    Gives (keywordLine game keyword expr) SeparatorFree :=
  (expr.gives_render game proper).bind fun _ text => .pure (free.glue text rfl)

theorem declarationSuffix_gives (constant conditional : Bool) :
    Gives (declarationSuffix game constant conditional) SeparatorFree := by
  rw [declarationSuffix_eq]
  refine .after fun _ => .pure (Text.separatorFree_intercalate rfl _ ?_)
  intro word among
  have words : word = "Const" ∨ word = "Conditional" := by
    cases constant <;> cases conditional <;> simp_all
  rcases words with rfl | rfl <;> exact (closed_of_isMark rfl).free

/-- The element type is declared, or named after a literal. -/
theorem arrayElementType_gives (name : String) (declared : Option TypeRef) (elements : List Literal)
    (proper : ∀ type ∈ declared, Everywhere Proper (.type type)) :
    Gives (arrayElementType name declared elements) fun type => Closed type.text := by
  unfold arrayElementType
  cases declared with
  | some type =>
      have formed : type.element.name.isWellFormed = true :=
        ((proper type rfl).below _ (.head _)).here.formed _ rfl
      show Gives (if type.array then Except.ok type.element else _) _
      split
      · exact .pure (TypeRef.closed_text formed)
      · exact .error _
  | none =>
      cases named : elements.head?.bind Literal.typeName? with
      | none => exact .error _
      | some word =>
          obtain ⟨literal, -, of_literal⟩ := Option.bind_eq_some_iff.mp named
          have formed : (TypeRef.named word).name.isWellFormed = true := by
            cases literal <;> cases of_literal <;> rfl
          exact .pure (TypeRef.closed_text formed)

theorem structInitType_gives (name : String) (declared : Option TypeRef)
    (proper : ∀ type ∈ declared, Everywhere Proper (.type type)) :
    Gives (structInitType name declared) fun type => Closed type.text := by
  unfold structInitType
  cases declared with
  | some type =>
      show Gives (if type.array then _ else Except.ok type) _
      split
      · exact .error _
      · exact .pure (TypeRef.closed_of_proper (proper type rfl))
  | none => exact .error _

theorem separatorFree_elementAssignments {name : String} (free : SeparatorFree name) (index : Nat)
    (elements : List Literal)
    (literals : ∀ literal ∈ elements, ∀ text ∈ literal.written, SeparatorFree text) :
    ∀ line ∈ elementAssignments name index elements, SeparatorFree line := by
  induction elements generalizing index with
  | nil => exact nofun
  | cons literal rest ih =>
      rw [List.forall_mem_cons] at literals
      refine List.forall_mem_cons.mpr ⟨?_, ih (index + 1) literals.2⟩
      have position : SeparatorFree (name ++ "[" ++ toString index) :=
        free.glue (Text.separatorFree_toString index) rfl
      exact position.glue (Literal.separatorFree_text literals.1) rfl

end Rendering

/-! ## Outlines -/

/-- If the outline has lines, there are no two colons side by side in them. -/
def Outline.Clean (outline : Outline) : Prop :=
  Gives (outline.lines .flat) (∀ line ∈ ·, SeparatorFree line)

theorem Page.separatorFree_line (level : Nat) {text : String} (free : SeparatorFree text) :
    SeparatorFree (Page.line level text) := by
  by_cases filled : text = ""
  · rwa [filled, line_empty, ← filled]
  · have spaces : ':' ∉ (Page.indentation level).toList := by
      rw [indentation, String.toList_ofList]
      intro colon
      cases List.eq_of_mem_replicate colon
    rw [line_of_ne level filled]
    refine Closed.append ⟨separatorFree_of_notMem spaces, fun last => ?_⟩ free
    exact spaces (List.mem_of_getLast? last)

namespace Outline.Clean

variable {first second body : Outline}

theorem skip : Outline.skip.Clean := .pure nofun

theorem emit {text : String} (free : SeparatorFree text) : (Outline.emit text).Clean :=
  .pure (List.forall_mem_singleton.mpr free)

theorem mark {text : String} (isMark : Text.isMark text = true) : (Outline.emit text).Clean :=
  emit (closed_of_isMark isMark).free

theorem need {value : Except TranspileError String} {next : String → Outline}
    (free : Gives value SeparatorFree) (rest : ∀ text, SeparatorFree text → (next text).Clean) :
    (Outline.need value next).Clean :=
  free.bind rest

theorem emitLine {value : Except TranspileError String} (free : Gives value SeparatorFree) :
    (Outline.emitLine value).Clean :=
  need free fun _ => emit

theorem seq (firsts : first.Clean) (seconds : second.Clean) : (Outline.seq first second).Clean :=
  Gives.bind firsts fun _ fronts => Gives.bind seconds fun _ backs =>
    .pure (List.forall_mem_append.mpr ⟨fronts, backs⟩)

theorem emitAll {texts : List String} (free : ∀ text ∈ texts, SeparatorFree text) :
    (Outline.emitAll texts).Clean := by
  induction texts with
  | nil => exact skip
  | cons text rest ih =>
      rw [List.forall_mem_cons] at free
      exact (emit free.1).seq (ih free.2)

theorem check (result : Except TranspileError Unit) : (Outline.check result).Clean :=
  need (.after fun _ => .pure Text.separatorFree_empty) fun _ _ => skip

theorem whenEnabled {table : DirectiveTable} {name : String} (bodies : body.Clean) :
    (Outline.whenEnabled table name body).Clean := by
  unfold Outline.whenEnabled
  split
  · exact bodies
  · exact skip

theorem indented (bodies : body.Clean) : (Outline.indented body).Clean := by
  refine Gives.bind bodies fun lines free => .pure ?_
  rintro _ among
  obtain ⟨line, member, rfl⟩ := List.mem_map.mp among
  exact Page.separatorFree_line 1 (free line member)

theorem loop (bodies : body.Clean) : (Outline.loop body).Clean := by
  refine Gives.bind bodies fun lines free => .pure ?_
  rintro _ among
  obtain ⟨line, member, rfl⟩ := List.mem_map.mp among
  exact Page.separatorFree_line 1 (Text.separatorFree_trim (free line member))

end Outline.Clean

section Members

variable (game : Game) (table : DirectiveTable)

theorem Outline.clean_fieldAssignments {name : String} (free : SeparatorFree name) :
    ∀ fields : List FieldInit, (∀ part ∈ fields.map TreePart.field, Everywhere Proper part) →
      (Outline.fieldAssignments game name fields).Clean
  | [], _ => .skip
  | .mk field value :: rest, proper => by
      obtain ⟨first, others⟩ := List.forall_mem_cons.mp proper
      have names := Identifier.closed_of_proper (first.below _ (.head _))
      refine .seq (.emitLine ?_) (clean_fieldAssignments free rest others)
      refine (value.gives_render game (first.below _ (.tail _ (.head _)))).bind fun text texts => ?_
      exact .pure ((free.glue names.free rfl).glue texts rfl)

theorem Outline.clean_declaration {head name suffix : String} {declared : Option TypeRef}
    {init : Option Expr} (heads : SeparatorFree head) (names : SeparatorFree name)
    (suffixes : SeparatorFree suffix) (types : ∀ type ∈ declared, Everywhere Proper (.type type))
    (values : ∀ part ∈ init.toList.map TreePart.expr, Everywhere Proper part) :
    (Outline.declaration game head name declared init suffix).Clean := by
  have front : SeparatorFree (head ++ " " ++ name) := heads.glue names rfl
  cases init with
  | none => exact .emit (front.glue suffixes rfl)
  | some value =>
      have proper := values (.expr value) (.head _)
      cases value with
      | arrayInit elements =>
          have literals : ∀ literal ∈ elements, ∀ text ∈ literal.written, SeparatorFree text :=
            fun literal member text among =>
              proper.here.verbatim text (List.mem_flatMap.mpr ⟨literal, member, among⟩)
          refine .seq (.emitLine ?_)
            (.emitAll (separatorFree_elementAssignments names 0 elements literals))
          refine (arrayElementType_gives name declared elements types).bind fun type typed => ?_
          have sizes := Text.separatorFree_toString elements.length
          exact .pure (((front.glue typed.free rfl).glue sizes rfl).glue suffixes rfl)
      | structInit fields =>
          refine .seq (.emitLine ?_) (Outline.clean_fieldAssignments game names fields proper.below)
          refine .after fun _ => ?_
          refine (structInitType_gives name declared types).bind fun type typed => ?_
          exact .pure ((front.glue typed.free rfl).glue suffixes rfl)
      | _ =>
          refine .emitLine ((Expr.gives_render game _ proper).bind fun text texts => .pure ?_)
          exact (front.glue texts rfl).glue suffixes rfl

theorem VariableDecl.clean_outline (decl : VariableDecl)
    (proper : Everywhere Proper (.variable decl)) : (decl.outline game).Clean := by
  obtain ⟨type, rest⟩ := List.forall_mem_cons.mp proper.below
  obtain ⟨name, values⟩ := List.forall_mem_cons.mp rest
  refine .need (declarationSuffix_gives game _ _) fun suffix suffixes => ?_
  refine Outline.clean_declaration game (TypeRef.closed_of_proper type).free
    (Identifier.closed_of_proper name).free suffixes ?_ values
  rintro _ ⟨⟩
  exact type

theorem InferredVariable.clean_outline (decl : InferredVariable)
    (proper : Everywhere Proper (.inferred decl)) : (decl.outline game).Clean := by
  obtain ⟨name, values⟩ := List.forall_mem_cons.mp proper.below
  refine .seq (.check _) (.need (declarationSuffix_gives game _ _) fun suffix suffixes => ?_)
  exact Outline.clean_declaration game (closed_of_isMark rfl).free
    (Identifier.closed_of_proper name).free suffixes nofun values

theorem VariableDecl.clean_outlineList : ∀ decls : List VariableDecl,
    (∀ part ∈ decls.map TreePart.variable, Everywhere Proper part) →
    (VariableDecl.outlineList game decls).Clean
  | [], _ => .skip
  | decl :: rest, proper => by
      obtain ⟨first, others⟩ := List.forall_mem_cons.mp proper
      exact (decl.clean_outline game first).seq (clean_outlineList rest others)

mutual

theorem Stmt.clean_outline : ∀ stmt : Stmt, Everywhere Proper (.stmt stmt) →
    (stmt.outline game table).Clean
  | .expr inner, proper => .emitLine (inner.gives_render game (proper.below _ (.head _)))
  | .ret none, _ => .mark rfl
  | .ret (some value), proper =>
      .emitLine
        (keywordLine_gives game value (closed_of_isMark rfl).free (proper.below _ (.head _)))
  | .variable decl, proper => decl.clean_outline game (proper.below _ (.head _))
  | .inferred decl, proper => decl.clean_outline game (proper.below _ (.head _))
  | .ifElse condition body elseIfs elseBody, proper => by
      obtain ⟨conditions, rest⟩ := List.forall_mem_cons.mp proper.below
      obtain ⟨bodies, rest⟩ := List.forall_mem_append.mp rest
      obtain ⟨chain, last⟩ := List.forall_mem_append.mp rest
      exact .seq (.emitLine
          (keywordLine_gives game condition (closed_of_isMark rfl).free conditions)) <|
        .seq (.indented (Stmt.clean_outlineList body bodies)) <|
        .seq (Stmt.clean_outlineElseIfs elseIfs chain) <|
        .seq (Stmt.clean_outlineElse elseBody last) <| .mark rfl
  | .while condition body, proper => by
      obtain ⟨conditions, bodies⟩ := List.forall_mem_cons.mp proper.below
      exact .seq (.emitLine
          (keywordLine_gives game condition (closed_of_isMark rfl).free conditions)) <|
        .seq (.loop (Stmt.clean_outlineList body bodies)) <| .mark rfl
  | .range element array body, proper => by
      obtain ⟨elements, rest⟩ := List.forall_mem_cons.mp proper.below
      obtain ⟨arrays, bodies⟩ := List.forall_mem_cons.mp rest
      have inArray := (Identifier.closed_of_proper arrays).free
      have inElement := (Identifier.closed_of_proper elements).free
      have inIndex : SeparatorFree (indexName array) := (inArray.close rfl).free
      have declares : Closed "Int " := closed_of_isMark rfl
      have loops : Closed "While " := closed_of_isMark rfl
      refine .seq (.emit ((declares.append inIndex).close rfl).free) <|
        .seq (.emit (((loops.append inIndex).glue inArray rfl).close rfl).free) <|
        .seq (.indented <| .seq (.emit ?item) <| .seq (Stmt.clean_outlineList body bodies) <|
          .emit (inIndex.close rfl).free) <|
        .mark rfl
      exact ((((declares.append inElement).glue inArray rfl).glue inIndex rfl).close rfl).free
  | .switch subject [] default, proper => by
      obtain ⟨subjects, last⟩ := List.forall_mem_cons.mp proper.below
      exact .need (subject.gives_render game subjects) fun _ _ =>
        Stmt.clean_outlineOption default last
  | .switch subject (.mk guard body :: cases) default, proper => by
      obtain ⟨subjects, rest⟩ := List.forall_mem_cons.mp proper.below
      obtain ⟨first, rest⟩ := List.forall_mem_cons.mp rest
      obtain ⟨chain, last⟩ := List.forall_mem_append.mp rest
      obtain ⟨guards, bodies⟩ := List.forall_mem_cons.mp first.below
      refine .need (subject.gives_render game subjects) fun text free => ?_
      have head : Closed ("If " ++ text ++ " ==") :=
        ((closed_of_isMark rfl : Closed "If ").append free).close rfl
      exact .seq (.emitLine (keywordLine_gives game guard head.free guards)) <|
        .seq (.indented (Stmt.clean_outlineList body bodies)) <|
        .seq (Stmt.clean_outlineCases free cases chain) <|
        .seq (Stmt.clean_outlineElse default last) <| .mark rfl
  | .conditional _ body, proper => .whenEnabled (Stmt.clean_outlineList body proper.below)

theorem Stmt.clean_outlineList : ∀ body : List Stmt,
    (∀ part ∈ body.map TreePart.stmt, Everywhere Proper part) →
    (Stmt.outlineList game table body).Clean
  | [], _ => .skip
  | stmt :: rest, proper => by
      obtain ⟨first, others⟩ := List.forall_mem_cons.mp proper
      exact (Stmt.clean_outline stmt first).seq (Stmt.clean_outlineList rest others)

theorem Stmt.clean_outlineOption : ∀ body : Option (List Stmt),
    (∀ part ∈ TreePart.ofBlock body, Everywhere Proper part) →
    (Stmt.outlineOption game table body).Clean
  | none, _ => .skip
  | some body, proper => Stmt.clean_outlineList body proper

theorem Stmt.clean_outlineElse : ∀ body : Option (List Stmt),
    (∀ part ∈ TreePart.ofBlock body, Everywhere Proper part) →
    (Stmt.outlineElse game table body).Clean
  | none, _ => .skip
  | some body, proper => .seq (.mark rfl) (.indented (Stmt.clean_outlineList body proper))

theorem Stmt.clean_outlineElseIfs : ∀ branches : List Branch,
    (∀ part ∈ branches.map TreePart.branch, Everywhere Proper part) →
    (Stmt.outlineElseIfs game table branches).Clean
  | [], _ => .skip
  | .mk guard body :: rest, proper => by
      obtain ⟨first, others⟩ := List.forall_mem_cons.mp proper
      obtain ⟨guards, bodies⟩ := List.forall_mem_cons.mp first.below
      exact .seq (.emitLine (keywordLine_gives game guard (closed_of_isMark rfl).free guards)) <|
        .seq (.indented (Stmt.clean_outlineList body bodies)) <|
        Stmt.clean_outlineElseIfs rest others

theorem Stmt.clean_outlineCases {subject : String} (free : SeparatorFree subject) :
    ∀ branches : List Branch, (∀ part ∈ branches.map TreePart.branch, Everywhere Proper part) →
    (Stmt.outlineCases game table subject branches).Clean
  | [], _ => .skip
  | .mk guard body :: rest, proper => by
      obtain ⟨first, others⟩ := List.forall_mem_cons.mp proper
      obtain ⟨guards, bodies⟩ := List.forall_mem_cons.mp first.below
      have head : Closed ("ElseIf " ++ subject ++ " ==") :=
        ((closed_of_isMark rfl : Closed "ElseIf ").append free).close rfl
      exact .seq (.emitLine (keywordLine_gives game guard head.free guards)) <|
        .seq (.indented (Stmt.clean_outlineList body bodies)) <|
        Stmt.clean_outlineCases free rest others

end

theorem Outline.clean_accessor {header : String} {body : Option (List Stmt)}
    (free : SeparatorFree header)
    (proper : ∀ part ∈ TreePart.ofBlock body, Everywhere Proper part) :
    (Outline.accessor game table header body).Clean := by
  cases body with
  | none => exact .skip
  | some body =>
      exact .seq (.emit free) <|
        .seq (.indented (Stmt.clean_outlineList game table body proper)) <| .mark rfl

theorem Param.gives_renderList : ∀ params : List Param,
    (∀ part ∈ params.map TreePart.param, Everywhere Proper part) →
    Gives (Param.renderList game params) (∀ text ∈ ·, SeparatorFree text)
  | [], _ => .pure nofun
  | ⟨type, name, default⟩ :: rest, proper => by
      obtain ⟨first, others⟩ := List.forall_mem_cons.mp proper
      obtain ⟨types, first⟩ := List.forall_mem_cons.mp first.below
      obtain ⟨names, values⟩ := List.forall_mem_cons.mp first
      have head : SeparatorFree (type.text ++ " " ++ name.normalized) :=
        (TypeRef.closed_of_proper types).free.glue (Identifier.closed_of_proper names).free rfl
      have text : Gives (Param.render game ⟨type, name, default⟩) SeparatorFree := by
        cases default with
        | none => exact .pure head
        | some value =>
            exact (value.gives_render game (values _ (.head _))).bind fun _ free =>
              .pure (head.glue free rfl)
      refine text.bind fun _ free => (gives_renderList rest others).bind fun _ frees => ?_
      exact .pure (List.forall_mem_cons.mpr ⟨free, frees⟩)

theorem signature_gives {role : Role} {name : Identifier} {params : List Param}
    (names : Everywhere Proper (.identifier ⟨role, name⟩))
    (proper : ∀ part ∈ params.map TreePart.param, Everywhere Proper part) :
    Gives (signature game name params) Closed := by
  refine (Param.gives_renderList game params proper).bind fun texts free => .pure ?_
  have list : SeparatorFree (", ".intercalate texts) :=
    Text.separatorFree_intercalate rfl texts free
  exact ((Identifier.closed_of_proper names).free.glue list rfl).close rfl

theorem separatorFree_trailing {words : List String}
    (marks : ∀ word ∈ words, Text.isMark word = true) : SeparatorFree (trailing words) := by
  refine separatorFree_of_notMem fun colon => ?_
  rw [trailing, String.toList_join, List.mem_flatMap] at colon
  obtain ⟨_, among, inside⟩ := colon
  obtain ⟨word, member, rfl⟩ := List.mem_map.mp among
  have colonless := ((Text.isMark_iff word).mp (marks word member)).2
  simp [colonless] at inside

theorem FunctionDecl.gives_header (decl : FunctionDecl)
    (proper : Everywhere Proper (.member (.function decl))) :
    Gives (decl.header game) SeparatorFree := by
  obtain ⟨types, rest⟩ := List.forall_mem_append.mp proper.below
  obtain ⟨names, rest⟩ := List.forall_mem_cons.mp rest
  obtain ⟨params, -⟩ := List.forall_mem_append.mp rest
  have modifiers : SeparatorFree (trailing (decl.modifiers.map FunctionModifier.text)) := by
    refine separatorFree_trailing fun word among => ?_
    obtain ⟨modifier, -, rfl⟩ := List.mem_map.mp among
    cases modifier <;> rfl
  refine (signature_gives game names params).bind fun text closed => .pure ?_
  have afterType : ∀ result, SeparatorFree result → SeparatorFree (result ++ "Function " ++ text ++
      trailing (decl.modifiers.map FunctionModifier.text)) :=
    fun _ free => ((free.close rfl).append_closed closed).append modifiers
  cases declared : decl.returnType with
  | none => exact afterType "" Text.separatorFree_empty
  | some type =>
      have typed : SeparatorFree type.text := by
        refine (TypeRef.closed_of_proper (types _ ?_)).free
        simp [declared]
      refine afterType (if type.isVoid then "" else type.text ++ " ") ?_
      split
      · exact Text.separatorFree_empty
      · exact (typed.close rfl).free

theorem AutoProperty.gives_line (property : AutoProperty)
    (proper : Everywhere Proper (.member (.autoProperty property))) :
    Gives (property.line game) SeparatorFree := by
  obtain ⟨types, rest⟩ := List.forall_mem_cons.mp proper.below
  obtain ⟨names, values⟩ := List.forall_mem_cons.mp rest
  have name := Identifier.closed_of_proper names
  have head : Closed (property.type.text ++ " Property " ++ property.name.normalized) :=
    ((TypeRef.closed_of_proper types).free.close rfl).append_closed name
  have value : Gives (property.valueText game) SeparatorFree := by
    unfold valueText
    cases init : property.init with
    | none => exact .pure Text.separatorFree_empty
    | some expr =>
        have inner := expr.gives_render game (values (.expr expr) (by simp [init]))
        exact inner.bind fun _ free => .pure ((closed_of_isMark rfl).append free)
  have auto : Text.isMark (PropertyModifier.autoText property.modifier) = true := by
    rcases property.modifier with _ | ⟨⟨⟩⟩ <;> rfl
  rw [line_eq]
  refine value.bind fun text free => .after fun _ => .after fun _ => .pure ?_
  have line := (((head.append free).close (rfl : Text.isMark " " = true)).free.close auto)
  have constant : Closed (if property.constant then " Const" else "") := by
    split
    · exact closed_of_isMark rfl
    · exact Text.closed_empty
  have mandatory : Closed (if property.mandatory then " Mandatory" else "") := by
    split
    · exact closed_of_isMark rfl
    · exact Text.closed_empty
  exact ((line.append_closed constant).append_closed mandatory).free

theorem FullProperty.clean_outline (property : FullProperty)
    (proper : Everywhere Proper (.member (.fullProperty property))) :
    (property.outline game table).Clean := by
  obtain ⟨types, rest⟩ := List.forall_mem_cons.mp proper.below
  obtain ⟨names, accessors⟩ := List.forall_mem_cons.mp rest
  obtain ⟨getters, setters⟩ := List.forall_mem_append.mp accessors
  have type := (TypeRef.closed_of_proper types).free
  have name := (Identifier.closed_of_proper names).free
  have set : Closed "Function Set(" := closed_of_isMark rfl
  exact .seq (.check _) <| .seq (.emit (type.glue name rfl)) <|
    .seq (Outline.clean_accessor game table (type.close rfl).free getters) <|
    .seq (Outline.clean_accessor game table ((set.append type).close rfl).free setters) <| .mark rfl

mutual

theorem Member.clean_outline : ∀ member : Member, Everywhere Proper (.member member) →
    (member.outline game table).Clean
  | .importScript path, proper =>
      .emit ((closed_of_isMark rfl).append
        (Text.separatorFree_replaceAll (proper.here.imports path (.head _))))
  | .variable decl, proper => decl.clean_outline game (proper.below _ (.head _))
  | .inferred decl, proper => decl.clean_outline game (proper.below _ (.head _))
  | .autoProperty property, proper => .emitLine (property.gives_line game proper)
  | .fullProperty property, proper => property.clean_outline game table proper
  | .function decl, proper => by
      obtain ⟨-, rest⟩ := List.forall_mem_append.mp proper.below
      obtain ⟨-, rest⟩ := List.forall_mem_cons.mp rest
      obtain ⟨-, bodies⟩ := List.forall_mem_append.mp rest
      exact .seq (.emitLine (decl.gives_header game proper)) <|
        .seq (.indented (Stmt.clean_outlineList game table decl.body bodies)) <|
        .seq (.mark rfl) <| .emit Text.separatorFree_empty
  | .event decl, proper => by
      obtain ⟨names, rest⟩ := List.forall_mem_cons.mp proper.below
      obtain ⟨params, bodies⟩ := List.forall_mem_append.mp rest
      refine .seq (.emitLine ?_) <|
        .seq (.indented (Stmt.clean_outlineList game table decl.body bodies)) <|
        .seq (.mark rfl) <| .emit Text.separatorFree_empty
      exact (signature_gives game names params).bind fun _ closed =>
        .pure ((closed_of_isMark rfl).append closed.free)
  | .state name auto members, proper => by
      obtain ⟨names, rest⟩ := List.forall_mem_cons.mp proper.below
      have lead :
          SeparatorFree ((if auto then "Auto " else "") ++ "State " ++ name.normalized) := by
        cases auto <;>
          exact (closed_of_isMark rfl).append (Identifier.closed_of_proper names).free
      exact .seq (.emit lead) <|
        .seq (.indented (Member.clean_outlineList members rest)) <| .mark rfl
  | .struct decl, proper => by
      obtain ⟨names, rest⟩ := List.forall_mem_cons.mp proper.below
      have head := (closed_of_isMark rfl : Closed "Struct ").append
        (Identifier.closed_of_proper names).free
      exact .seq (.check _) <| .seq (.emit head) <|
        .seq (.indented (VariableDecl.clean_outlineList game decl.members rest)) <| .mark rfl
  | .group name flags members, proper => by
      obtain ⟨names, rest⟩ := List.forall_mem_cons.mp proper.below
      have head := (closed_of_isMark rfl : Closed "Group ").append_closed
        (Identifier.closed_of_proper names)
      have words : SeparatorFree (trailing (flags.map GroupFlag.text)) := by
        refine separatorFree_trailing fun word among => ?_
        obtain ⟨flag, -, rfl⟩ := List.mem_map.mp among
        cases flag <;> rfl
      exact .seq (.check _) <| .seq (.emit (head.append words)) <|
        .seq (.indented (Member.clean_outlineList members rest)) <| .mark rfl
  | .conditional _ body, proper => .whenEnabled (Member.clean_outlineList body proper.below)

theorem Member.clean_outlineList : ∀ members : List Member,
    (∀ part ∈ members.map TreePart.member, Everywhere Proper part) →
    (Member.outlineList game table members).Clean
  | [], _ => .skip
  | member :: rest, proper => by
      obtain ⟨first, others⟩ := List.forall_mem_cons.mp proper
      exact (Member.clean_outline member first).seq (Member.clean_outlineList rest others)

end

theorem Script.clean_outline (script : Script) (proper : Everywhere Proper (.script script)) :
    (script.outline game table).Clean := by
  obtain ⟨names, rest⟩ := List.forall_mem_cons.mp proper.below
  obtain ⟨parents, members⟩ := List.forall_mem_cons.mp rest
  have flags : SeparatorFree (trailing (script.flags.map ScriptFlag.text)) := by
    refine separatorFree_trailing fun word among => ?_
    obtain ⟨flag, -, rfl⟩ := List.mem_map.mp among
    cases flag <;> rfl
  have name := (closed_of_isMark rfl : Closed "ScriptName ").append
    (Identifier.closed_of_proper names).free
  have head := (name.close (rfl : Text.isMark " extends " = true)).append_closed
    (Identifier.closed_of_proper parents)
  have header : Gives (script.header game) SeparatorFree :=
    .after fun _ => .pure (head.append flags)
  exact .seq (.emitLine header) <| .seq (.emit Text.separatorFree_empty) <|
    Member.clean_outlineList game table script.members members

end Members

/-! ## The generated text -/

theorem Page.separatorFree_text {page : Page}
    (free : ∀ line ∈ page.lines.toList, SeparatorFree line) : SeparatorFree page.text :=
  ((Text.separatorFree_intercalate rfl _ free).close rfl).free

/-- The places of identifiers are those that the check visits. -/
theorem Script.formed_of_check {script : Script}
    (names : ∀ occurrence ∈ script.occurrences, occurrence.diagnostic? = none)
    (occurrence : Occurrence) (within : (TreePart.identifier occurrence).Within (.script script)) :
    occurrence.name.isWellFormed = true := by
  obtain ⟨path, here⟩ := within
  obtain ⟨sites, enumerates, all⟩ := script.lists
  have site : (path, occurrence) ∈ sites := (enumerates.exact path occurrence).mpr here
  have accepted := names occurrence (all ▸ List.mem_map_of_mem site)
  cases formed : occurrence.name.isWellFormed with
  | true => rfl
  | false => cases accepted.symm.trans (Occurrence.diagnostic?_eq_some formed)

/-- A generated script has no two colons side by side, in a name or across two pieces of text, if
its identifiers pass the check, its literals and operators have no two colons side by side, and the
paths of its imports have no three without their quotes. -/
theorem Script.generate_separatorFree (game : Game) (directives : DirectiveTable) (script : Script)
    (text : String) (generated : (script.generate game directives).result = .ok text)
    (names : ∀ occurrence ∈ script.occurrences, occurrence.diagnostic? = none)
    (verbatim : ∀ part : TreePart, part.Within (.script script) →
      ∀ text ∈ part.verbatim, ¬ [':', ':'] <:+: text.toList)
    (imports : ∀ part : TreePart, part.Within (.script script) →
      ∀ path ∈ part.imports, ¬ [':', ':', ':'] <:+: (Text.stripQuotes path).toList) :
    ¬ [':', ':'] <:+: text.toList := by
  have proper : Everywhere Proper (.script script) := by
    intro part within
    refine ⟨verbatim part within, imports part within, ?_⟩
    rintro occurrence rfl
    exact Script.formed_of_check names occurrence within
  have clean := script.clean_outline game directives proper
  rw [Script.generate_eq_lines] at generated
  cases lines : (script.outline game directives).lines .flat with
  | error error =>
      rw [lines] at generated
      cases generated
  | ok written =>
      rw [lines] at generated
      cases generated
      refine Page.separatorFree_text fun line among => clean written lines line ?_
      simpa [Page.lines_writeLines_blank] using among

/-- Namespaces in names, colons that meet between a literal and an operator, and an import path with
a quote between its colons. -/
def Script.courier : Script where
  name := ⟨"Mail::Courier"⟩
  parent := ⟨"Base::Quest"⟩
  flags := [.hidden]
  members :=
    [.importScript "\"Mail:\":Utils",
      .function
        { returnType := some ⟨⟨"Mail::Letter"⟩, true⟩
          name := ⟨"Mail::Collect"⟩
          params := []
          modifiers := []
          body :=
            [.range ⟨"Mail::letter"⟩ ⟨"Mail::bag"⟩
              [.ret (some (.binary (.literal (.int ":")) ":" (.literal (.string ":"))))]] }]

def Page.courier : Page where
  indent := 0
  lines := #["ScriptName Mail:Courier extends Base:Quest Hidden",
    "",
    "Import Mail:Utils",
    "Mail:Letter[] Function Mail:Collect()",
    "    Int Mail:bagIndex = 0",
    "    While Mail:bagIndex < Mail:bag.Length",
    "        Int Mail:letter = Mail:bag[Mail:bagIndex]",
    "        Return : : \":\"",
    "        Mail:bagIndex += 1",
    "    EndWhile",
    "EndFunction",
    ""]

theorem Script.courier_separatorFree :
    (Script.courier.generate .skyrimSE .empty).result = .ok Page.courier.text ∧
      ¬ [':', ':'] <:+: Page.courier.text.toList := by
  have generated : (Script.courier.generate .skyrimSE .empty).result = .ok Page.courier.text := rfl
  have names : Script.courier.occurrences.filterMap Occurrence.diagnostic? = [] := rfl
  have free : TreePart.holdsTo
      (·.verbatim.all fun text => decide (¬ [':', ':'] <:+: text.toList)) 8
      (.script Script.courier) = true := by decide +kernel
  have few : TreePart.holdsTo
      (·.imports.all fun path => decide (¬ [':', ':', ':'] <:+: (Text.stripQuotes path).toList)) 8
      (.script Script.courier) = true := by decide +kernel
  refine ⟨generated, Script.generate_separatorFree _ _ _ _ generated
    (List.filterMap_eq_nil_iff.mp names) ?_ ?_⟩
  · intro part within
    simpa using TreePart.everywhere_of_holdsTo 8 _ free part within
  · intro part within
    simpa using TreePart.everywhere_of_holdsTo 8 _ few part within

end PapyrusWriter
