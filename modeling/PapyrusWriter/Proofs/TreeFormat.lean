import PapyrusWriter.Proofs.Json.Accepting
import PapyrusWriter.Tree.Read
/-!
# The tree format

Every part of a tree is read back from its JSON form. The one part that can get lost is the
structure of a dotted name, which is written as one string: it comes back if the name has a segment
and no segment has a dot inside (`QualifiedName.Dotted`).

Main statement: a tree of such names is read back from every text of its JSON form, with any white
space and any escapes in it, if the form is no deeper than a text may be
(`SyntaxTree.read_encode`). Nothing but the ill-formed identifiers is reported.
-/

namespace PapyrusWriter

set_option autoImplicit false

open Json (Decoder)
open Json.Decoder (Accepts Builds Decodes Selects)

/-! ## Dotted names -/

/-- A name that its text determines. -/
structure QualifiedName.Dotted (name : QualifiedName) : Prop where
  segmented : name.segments ≠ []
  undotted : ∀ segment ∈ name.segments, '.' ∉ segment.raw.toList

theorem splitAtMark_of_notMem {mark : Char} {piece : List Char} (free : mark ∉ piece) :
    splitAtMark mark piece = [piece] := by
  induction piece with
  | nil => rfl
  | cons c cs ih =>
      rw [List.mem_cons, not_or] at free
      rw [splitAtMark, if_neg (Ne.symm free.1), ih free.2]

theorem splitAtMark_append {mark : Char} {piece : List Char} (free : mark ∉ piece)
    (rest : List Char) :
    splitAtMark mark (piece ++ mark :: rest) = piece :: splitAtMark mark rest := by
  induction piece with
  | nil => rw [List.nil_append, splitAtMark, if_pos rfl]
  | cons c cs ih =>
      rw [List.mem_cons, not_or] at free
      rw [List.cons_append, splitAtMark, if_neg (Ne.symm free.1), ih free.2]

/-- Splitting undoes joining, as long as there is a piece and the mark stands between the pieces
only. -/
theorem splitAtMark_intercalate {mark : Char} {pieces : List (List Char)} (some : pieces ≠ [])
    (free : ∀ piece ∈ pieces, mark ∉ piece) :
    splitAtMark mark ([mark].intercalate pieces) = pieces := by
  induction pieces with
  | nil => exact absurd rfl some
  | cons piece rest ih =>
      obtain ⟨here, there⟩ := List.forall_mem_cons.mp free
      cases rest with
      | nil => rw [List.intercalate_singleton, splitAtMark_of_notMem here]
      | cons next rest =>
          rw [List.intercalate_cons_cons, List.append_assoc, List.singleton_append,
            splitAtMark_append here, ih (List.cons_ne_nil _ _) there]

theorem QualifiedName.ofString_raw {name : QualifiedName} (dotted : name.Dotted) :
    ofString name.raw = name := by
  obtain ⟨segments⟩ := name
  have pieces : splitAtMark '.' (QualifiedName.raw ⟨segments⟩).toList =
      segments.map fun segment => segment.raw.toList := by
    rw [raw, String.toList_intercalate, List.map_map]
    refine splitAtMark_intercalate (mt List.map_eq_nil_iff.mp dotted.segmented) ?_
    exact List.forall_mem_map.mpr dotted.undotted
  rw [ofString, pieces, List.map_map]
  simp [Function.comp_def]

/-! ## The names of a tree -/

section EveryName

variable (p : QualifiedName → Prop)

mutual

/-- Every dotted name of the expression has the property. -/
def Expr.EveryName : Expr → Prop
  | .literal _ => True
  | .name qualified => p qualified
  | .binary lhs _ rhs => lhs.EveryName ∧ rhs.EveryName
  | .not operand => operand.EveryName
  | .negate operand => operand.EveryName
  | .paren inner => inner.EveryName
  | .assign target _ value => target.EveryName ∧ value.EveryName
  | .call callee args => p callee ∧ Expr.EveryNameList args
  | .index array position => array.EveryName ∧ position.EveryName
  | .newArray _ size => size.EveryName
  | .newStruct _ => True
  | .arrayInit _ => True
  | .structInit fields => Expr.EveryNameFields fields
  | .cast operand _ => operand.EveryName
  | .is operand _ => operand.EveryName
  | .increment target => p target
  | .decrement target => p target

def Expr.EveryNameList : List Expr → Prop
  | [] => True
  | expr :: rest => expr.EveryName ∧ Expr.EveryNameList rest

def Expr.EveryNameFields : List FieldInit → Prop
  | [] => True
  | .mk _ value :: rest => value.EveryName ∧ Expr.EveryNameFields rest

end

/-- Every dotted name of an expression that may be missing. -/
def Expr.EveryNameOption (expr : Option Expr) : Prop := ∀ inner ∈ expr, inner.EveryName p

mutual

def Stmt.EveryName : Stmt → Prop
  | .expr inner => inner.EveryName p
  | .ret value => Expr.EveryNameOption p value
  | .variable decl => Expr.EveryNameOption p decl.init
  | .inferred decl => Expr.EveryNameOption p decl.init
  | .ifElse condition body elseIfs elseBody =>
      condition.EveryName p ∧ Stmt.EveryNameList body ∧ Stmt.EveryNameBranches elseIfs ∧
        Stmt.EveryNameOption elseBody
  | .while condition body => condition.EveryName p ∧ Stmt.EveryNameList body
  | .range _ _ body => Stmt.EveryNameList body
  | .switch subject cases default =>
      subject.EveryName p ∧ Stmt.EveryNameBranches cases ∧ Stmt.EveryNameOption default
  | .conditional _ body => Stmt.EveryNameList body

def Stmt.EveryNameList : List Stmt → Prop
  | [] => True
  | stmt :: rest => stmt.EveryName ∧ Stmt.EveryNameList rest

def Stmt.EveryNameOption : Option (List Stmt) → Prop
  | none => True
  | some body => Stmt.EveryNameList body

def Stmt.EveryNameBranches : List Branch → Prop
  | [] => True
  | .mk guard body :: rest =>
      guard.EveryName p ∧ Stmt.EveryNameList body ∧ Stmt.EveryNameBranches rest

end

/-- Every dotted name of the defaults of parameters. -/
def Param.EveryNameList (params : List Param) : Prop :=
  ∀ param ∈ params, Expr.EveryNameOption p param.default

mutual

def Member.EveryName : Member → Prop
  | .importScript _ => True
  | .variable decl => Expr.EveryNameOption p decl.init
  | .inferred decl => Expr.EveryNameOption p decl.init
  | .autoProperty property => Expr.EveryNameOption p property.init
  | .fullProperty property =>
      Stmt.EveryNameOption p property.getter ∧ Stmt.EveryNameOption p property.setter
  | .function decl => Param.EveryNameList p decl.params ∧ Stmt.EveryNameList p decl.body
  | .event decl => Param.EveryNameList p decl.params ∧ Stmt.EveryNameList p decl.body
  | .state _ _ members => Member.EveryNameList members
  | .struct decl => ∀ field ∈ decl.members, Expr.EveryNameOption p field.init
  | .group _ _ members => Member.EveryNameList members
  | .conditional _ body => Member.EveryNameList body

def Member.EveryNameList : List Member → Prop
  | [] => True
  | member :: rest => member.EveryName ∧ Member.EveryNameList rest

end

/-- Every dotted name of the tree has the property. -/
def SyntaxTree.EveryName (tree : SyntaxTree) : Prop := Member.EveryNameList p tree.script.members

end EveryName

/-! ## Names, types and literals -/

variable {limit : Nat}

theorem Identifier.decodes (name : Identifier) :
    Decodes limit Identifier.decoder name.encode name :=
  .map Identifier.mk (.string name.raw)

theorem QualifiedName.decodes (name : QualifiedName) (dotted : name.Dotted) :
    Decodes limit QualifiedName.decoder name.encode name := by
  have decodes : Decodes limit QualifiedName.decoder name.encode (ofString name.raw) :=
    .map QualifiedName.ofString (.string name.raw)
  rwa [ofString_raw dotted] at decodes

theorem TypeRef.decodes (type : TypeRef) : Decodes limit TypeRef.decoder type.encode type :=
  .record ⟨.cons type.name.decodes (.cons (.bool type.array) .nil), rfl⟩ rfl

theorem Literal.decodes (literal : Literal) :
    Decodes limit Literal.decoder literal.encode literal := by
  cases literal <;> exact ⟨rfl, fun _ => rfl⟩

theorem Literal.decodes_list (literals : List Literal) :
    Decodes limit Literal.decoder.list (.arr (literals.map Literal.encode)) literals :=
  .list_map fun literal _ => literal.decodes

/-! ## Expressions -/

namespace Expr

theorem decodes_node {kind : String} {members : List (String × Json)} {expr : Expr}
    (selects : ∀ level, Selects level (variants (decoderAt level)) kind members expr) (level : Nat) :
    Decodes level (decoderAt level) (.node kind members) expr :=
  Selects.decodes_level (fun _ => rfl) (fun level _ => selects level) level (Nat.le_refl level)

mutual

theorem decodes : ∀ expr : Expr, expr.EveryName QualifiedName.Dotted →
    ∀ level, Decodes level (decoderAt level) expr.encode expr
  | .literal value, _ => decodes_node fun _ => .record rfl ⟨.cons value.decodes .nil, rfl⟩ rfl
  | .name qualified, dotted => decodes_node fun _ =>
      .record rfl ⟨.cons (qualified.decodes dotted) .nil, rfl⟩ rfl
  | .binary lhs op rhs, ⟨left, right⟩ => decodes_node fun level =>
      .record rfl ⟨.cons (lhs.decodes left level) (.cons (.string op)
        (.cons (rhs.decodes right level) .nil)), rfl⟩ rfl
  | .not operand, dotted => decodes_node fun level =>
      .record rfl ⟨.cons (operand.decodes dotted level) .nil, rfl⟩ rfl
  | .negate operand, dotted => decodes_node fun level =>
      .record rfl ⟨.cons (operand.decodes dotted level) .nil, rfl⟩ rfl
  | .paren inner, dotted => decodes_node fun level =>
      .record rfl ⟨.cons (inner.decodes dotted level) .nil, rfl⟩ rfl
  | .assign target op value, ⟨left, right⟩ => decodes_node fun level =>
      .record rfl ⟨.cons (target.decodes left level) (.cons (.string op)
        (.cons (value.decodes right level) .nil)), rfl⟩ rfl
  | .call callee args, ⟨dotted, inside⟩ => decodes_node fun level =>
      .record rfl ⟨.cons (callee.decodes dotted)
        (.cons (.list (decodes_list args inside level)) .nil), rfl⟩ rfl
  | .index array position, ⟨left, right⟩ => decodes_node fun level =>
      .record rfl ⟨.cons (array.decodes left level) (.cons (position.decodes right level) .nil),
        rfl⟩ rfl
  | .newArray type size, dotted => decodes_node fun level =>
      .record rfl ⟨.cons type.decodes (.cons (size.decodes dotted level) .nil), rfl⟩ rfl
  | .newStruct type, _ => decodes_node fun _ => .record rfl ⟨.cons type.decodes .nil, rfl⟩ rfl
  | .arrayInit elements, _ => decodes_node fun _ =>
      .record rfl ⟨.cons (Literal.decodes_list elements) .nil, rfl⟩ rfl
  | .structInit fields, dotted => decodes_node fun level =>
      .record rfl ⟨.cons (.list (decodes_fields fields dotted level)) .nil, rfl⟩ rfl
  | .cast operand target, dotted => decodes_node fun level =>
      .record rfl ⟨.cons (operand.decodes dotted level) (.cons target.decodes .nil), rfl⟩ rfl
  | .is operand target, dotted => decodes_node fun level =>
      .record rfl ⟨.cons (operand.decodes dotted level) (.cons target.decodes .nil), rfl⟩ rfl
  | .increment target, dotted => decodes_node fun _ =>
      .record rfl ⟨.cons (target.decodes dotted) .nil, rfl⟩ rfl
  | .decrement target, dotted => decodes_node fun _ =>
      .record rfl ⟨.cons (target.decodes dotted) .nil, rfl⟩ rfl

theorem decodes_list : ∀ exprs : List Expr, EveryNameList QualifiedName.Dotted exprs →
    ∀ level, List.Forall₂ (Decodes level (decoderAt level)) (encodeList exprs) exprs
  | [], _, _ => .nil
  | expr :: rest, ⟨here, there⟩, level =>
      .cons (expr.decodes here level) (decodes_list rest there level)

theorem decodes_fields : ∀ fields : List FieldInit, EveryNameFields QualifiedName.Dotted fields →
    ∀ level, List.Forall₂ (Decodes level (fieldInit (decoderAt level))) (encodeFields fields) fields
  | [], _, _ => .nil
  | .mk field value :: rest, ⟨here, there⟩, level =>
      .cons (.record ⟨.cons field.decodes (.cons (value.decodes here level) .nil), rfl⟩ rfl)
        (decodes_fields rest there level)

end

theorem encode_ne_null (expr : Expr) : expr.encode ≠ .null := by
  cases expr <;> nofun

theorem decodes_decoder {expr : Expr} (dotted : expr.EveryName QualifiedName.Dotted)
    (within : limit ≤ levels) : Decodes limit decoder expr.encode expr :=
  (expr.decodes dotted levels).mono within

theorem decodes_option {expr : Option Expr} (dotted : EveryNameOption QualifiedName.Dotted expr)
    (within : limit ≤ levels) : Decodes limit decoder.option (.ofOption Expr.encode expr) expr :=
  .option encode_ne_null fun inner member => decodes_decoder (dotted inner member) within

end Expr

/-! ## Statements -/

theorem VariableDecl.builds (decl : VariableDecl)
    (dotted : Expr.EveryNameOption QualifiedName.Dotted decl.init) (within : limit ≤ levels) :
    Builds (fun _ => Decodes limit) record decl.fields decl :=
  ⟨.cons decl.type.decodes (.cons decl.name.decodes (.cons (Expr.decodes_option dotted within)
    (.cons (.bool decl.constant) (.cons (.bool decl.conditional) .nil)))), rfl⟩

theorem InferredVariable.builds (decl : InferredVariable)
    (dotted : Expr.EveryNameOption QualifiedName.Dotted decl.init) (within : limit ≤ levels) :
    Builds (fun _ => Decodes limit) record decl.fields decl :=
  ⟨.cons decl.name.decodes (.cons (Expr.decodes_option dotted within)
    (.cons (.bool decl.constant) (.cons (.bool decl.conditional) .nil))), rfl⟩

namespace Stmt

theorem decodes_node {kind : String} {members : List (String × Json)} {stmt : Stmt}
    (selects : ∀ level ≤ levels, Selects level (variants (decoderAt level)) kind members stmt) :
    ∀ level ≤ levels, Decodes level (decoderAt level) (.node kind members) stmt :=
  Selects.decodes_level (fun _ => rfl) selects

mutual

theorem decodes : ∀ stmt : Stmt, stmt.EveryName QualifiedName.Dotted →
    ∀ level ≤ levels, Decodes level (decoderAt level) stmt.encode stmt
  | .expr _, dotted => decodes_node fun _ within =>
      .record rfl ⟨.cons (Expr.decodes_decoder dotted within) .nil, rfl⟩ rfl
  | .ret _, dotted => decodes_node fun _ within =>
      .record rfl ⟨.cons (Expr.decodes_option dotted within) .nil, rfl⟩ rfl
  | .variable decl, dotted => decodes_node fun _ within =>
      .made Stmt.variable rfl (decl.builds dotted within) rfl
  | .inferred decl, dotted => decodes_node fun _ within =>
      .made Stmt.inferred rfl (decl.builds dotted within) rfl
  | .ifElse _ body elseIfs elseBody, ⟨guarded, inside, others, last⟩ =>
      decodes_node fun level within =>
        .record rfl ⟨.cons (Expr.decodes_decoder guarded within)
          (.cons (.list (decodes_list body inside level within))
            (.cons (.list (decodes_branches rfl elseIfs others level within))
              (.cons (decodes_option elseBody last level within) .nil))), rfl⟩ rfl
  | .while _ body, ⟨guarded, inside⟩ => decodes_node fun level within =>
      .record rfl ⟨.cons (Expr.decodes_decoder guarded within)
        (.cons (.list (decodes_list body inside level within)) .nil), rfl⟩ rfl
  | .range element array body, inside => decodes_node fun level within =>
      .record rfl ⟨.cons element.decodes (.cons array.decodes
        (.cons (.list (decodes_list body inside level within)) .nil)), rfl⟩ rfl
  | .switch _ cases default, ⟨subject, inside, last⟩ => decodes_node fun level within =>
      .record rfl ⟨.cons (Expr.decodes_decoder subject within)
        (.cons (.list (decodes_branches rfl cases inside level within))
          (.cons (decodes_option default last level within) .nil)), rfl⟩ rfl
  | .conditional name body, inside => decodes_node fun level within =>
      .record rfl ⟨.cons (.string name) (.cons (.list (decodes_list body inside level within)) .nil),
        rfl⟩ rfl

theorem decodes_list : ∀ stmts : List Stmt, EveryNameList QualifiedName.Dotted stmts →
    ∀ level ≤ levels, List.Forall₂ (Decodes level (decoderAt level)) (encodeList stmts) stmts
  | [], _, _, _ => .nil
  | stmt :: rest, ⟨here, there⟩, level, within =>
      .cons (stmt.decodes here level within) (decodes_list rest there level within)

theorem decodes_option : ∀ body : Option (List Stmt), EveryNameOption QualifiedName.Dotted body →
    ∀ level ≤ levels, Decodes level (decoderAt level).list.option (encodeOption body) body
  | none, _, level, _ => .option_none (decoderAt level).list
  | some body, inside, level, within =>
      .option_some nofun (.list (decodes_list body inside level within))

theorem decodes_branches {name guardKey bodyKey : String}
    (distinct : decide [guardKey, bodyKey].Nodup = true) :
    ∀ branches : List Branch, EveryNameBranches QualifiedName.Dotted branches → ∀ level ≤ levels,
      List.Forall₂ (Decodes level (branch name guardKey bodyKey (decoderAt level)))
        (encodeBranches guardKey bodyKey branches) branches
  | [], _, _, _ => .nil
  | .mk _ body :: rest, ⟨guarded, inside, there⟩, level, within =>
      .cons (.record ⟨.cons (Expr.decodes_decoder guarded within)
          (.cons (.list (decodes_list body inside level within)) .nil), rfl⟩ distinct)
        (decodes_branches distinct rest there level within)

end

theorem decodes_block {body : List Stmt} (dotted : EveryNameList QualifiedName.Dotted body)
    (within : limit ≤ levels) : Decodes limit blockDecoder (.arr (encodeList body)) body :=
  Decodes.mono (.list (decodes_list body dotted levels (Nat.le_refl levels))) within

theorem decodes_accessor {body : Option (List Stmt)}
    (dotted : EveryNameOption QualifiedName.Dotted body) (within : limit ≤ levels) :
    Decodes limit blockDecoder.option (encodeOption body) body :=
  (decodes_option body dotted levels (Nat.le_refl levels)).mono within

end Stmt

/-! ## Declarations -/

theorem PropertyModifier.decodes (modifier : PropertyModifier) :
    Decodes limit PropertyModifier.decoder (.str modifier.name) modifier :=
  .enum (by cases modifier <;> rfl)

theorem FunctionModifier.decodes (modifier : FunctionModifier) :
    Decodes limit FunctionModifier.decoder (.str modifier.name) modifier :=
  .enum (by cases modifier <;> rfl)

theorem GroupFlag.decodes (flag : GroupFlag) :
    Decodes limit GroupFlag.decoder (.str flag.name) flag :=
  .enum (by cases flag <;> rfl)

theorem Param.decodes (param : Param)
    (dotted : Expr.EveryNameOption QualifiedName.Dotted param.default) (within : limit ≤ levels) :
    Decodes limit record.decoder param.encode param :=
  .record ⟨.cons param.type.decodes (.cons param.name.decodes
    (.cons (Expr.decodes_option dotted within) .nil)), rfl⟩ rfl

theorem Param.decodes_list {params : List Param}
    (dotted : EveryNameList QualifiedName.Dotted params) (within : limit ≤ levels) :
    Decodes limit record.decoder.list (.arr (params.map Param.encode)) params :=
  .list_map fun param member => param.decodes (dotted param member) within

theorem AutoProperty.builds (property : AutoProperty)
    (dotted : Expr.EveryNameOption QualifiedName.Dotted property.init) (within : limit ≤ levels) :
    Builds (fun _ => Decodes limit) record property.fields property :=
  ⟨.cons property.type.decodes (.cons property.name.decodes
    (.cons (Expr.decodes_option dotted within)
      (.cons (.option nofun fun modifier _ => modifier.decodes)
        (.cons (.bool property.constant) (.cons (.bool property.mandatory) .nil))))), rfl⟩

theorem FullProperty.builds (property : FullProperty)
    (getter : Stmt.EveryNameOption QualifiedName.Dotted property.getter)
    (setter : Stmt.EveryNameOption QualifiedName.Dotted property.setter) (within : limit ≤ levels) :
    Builds (fun _ => Decodes limit) record property.fields property :=
  ⟨.cons property.type.decodes (.cons property.name.decodes
    (.cons (Stmt.decodes_accessor getter within)
      (.cons (Stmt.decodes_accessor setter within) .nil))), rfl⟩

theorem FunctionDecl.builds (decl : FunctionDecl)
    (params : Param.EveryNameList QualifiedName.Dotted decl.params)
    (body : Stmt.EveryNameList QualifiedName.Dotted decl.body) (within : limit ≤ levels) :
    Builds (fun _ => Decodes limit) record decl.fields decl :=
  ⟨.cons (.option nofun fun type _ => type.decodes) (.cons decl.name.decodes
    (.cons (Param.decodes_list params within)
      (.cons (.list_map fun modifier _ => modifier.decodes)
        (.cons (Stmt.decodes_block body within) .nil)))), rfl⟩

theorem EventDecl.builds (decl : EventDecl)
    (params : Param.EveryNameList QualifiedName.Dotted decl.params)
    (body : Stmt.EveryNameList QualifiedName.Dotted decl.body) (within : limit ≤ levels) :
    Builds (fun _ => Decodes limit) record decl.fields decl :=
  ⟨.cons decl.name.decodes (.cons (Param.decodes_list params within)
    (.cons (Stmt.decodes_block body within) .nil)), rfl⟩

theorem StructDecl.builds (decl : StructDecl)
    (dotted : ∀ field ∈ decl.members, Expr.EveryNameOption QualifiedName.Dotted field.init)
    (within : limit ≤ levels) : Builds (fun _ => Decodes limit) record decl.fields decl :=
  ⟨.cons decl.name.decodes (.cons (.list_map fun field member =>
    .record (field.builds (dotted field member) within) rfl) .nil), rfl⟩

/-! ## Members -/

namespace Member

/-- The member is written as a node whose kind and fields select it on every level. Members stand in
texts and in kept values, so both `decodes` and `accepts` come from this. -/
inductive Formed (member : Member) : Prop where
  | intro {kind : String} {members : List (String × Json)} (form : member.encode = .node kind members)
      (selects : ∀ level ≤ levels, Selects level (variants (decoderAt level)) kind members member)

theorem Formed.decodes {member : Member} (formed : member.Formed) :
    ∀ level ≤ levels, Decodes level (decoderAt level) member.encode member := by
  obtain ⟨form, selects⟩ := formed
  rw [form]
  exact Selects.decodes_level (fun _ => rfl) selects

theorem Formed.accepts {member : Member} (formed : member.Formed) (within : limit < levels) :
    Accepts (limit + 1) decoder member.encode member := by
  obtain ⟨form, selects⟩ := formed
  rw [form]
  have selected := selects Json.depthLimit (Nat.le_succ _)
  exact (selected.mono (Nat.le_of_lt_succ within)).accepts "Member"

mutual

theorem formed : ∀ member : Member, member.EveryName QualifiedName.Dotted → member.Formed
  | .importScript path, _ => ⟨rfl, fun _ _ => .record rfl ⟨.cons (.string path) .nil, rfl⟩ rfl⟩
  | .variable decl, dotted =>
      ⟨rfl, fun _ within => .made Member.variable rfl (decl.builds dotted within) rfl⟩
  | .inferred decl, dotted =>
      ⟨rfl, fun _ within => .made Member.inferred rfl (decl.builds dotted within) rfl⟩
  | .autoProperty property, dotted =>
      ⟨rfl, fun _ within => .made Member.autoProperty rfl (property.builds dotted within) rfl⟩
  | .fullProperty property, ⟨getter, setter⟩ =>
      ⟨rfl, fun _ within => .made Member.fullProperty rfl (property.builds getter setter within) rfl⟩
  | .function decl, ⟨params, body⟩ =>
      ⟨rfl, fun _ within => .made Member.function rfl (decl.builds params body within) rfl⟩
  | .event decl, ⟨params, body⟩ =>
      ⟨rfl, fun _ within => .made Member.event rfl (decl.builds params body within) rfl⟩
  | .state name auto members, dotted => ⟨rfl, fun level within =>
      .record rfl ⟨.cons name.decodes (.cons (.bool auto)
        (.cons (.list (decodes_list members dotted level within)) .nil)), rfl⟩ rfl⟩
  | .struct decl, dotted =>
      ⟨rfl, fun _ within => .made Member.struct rfl (decl.builds dotted within) rfl⟩
  | .group name _ members, dotted => ⟨rfl, fun level within =>
      .record rfl ⟨.cons name.decodes (.cons (.list_map fun flag _ => flag.decodes)
        (.cons (.list (decodes_list members dotted level within)) .nil)), rfl⟩ rfl⟩
  | .conditional name body, dotted => ⟨rfl, fun level within =>
      .record rfl ⟨.cons (.string name)
        (.cons (.list (decodes_list body dotted level within)) .nil), rfl⟩ rfl⟩

theorem decodes_list : ∀ members : List Member, EveryNameList QualifiedName.Dotted members →
    ∀ level ≤ levels, List.Forall₂ (Decodes level (decoderAt level)) (encodeList members) members
  | [], _, _, _ => .nil
  | member :: rest, ⟨here, there⟩, level, within =>
      .cons ((formed member here).decodes level within) (decodes_list rest there level within)

end

theorem accepts_list : ∀ members : List Member, EveryNameList QualifiedName.Dotted members →
    limit < levels → List.Forall₂ (Accepts (limit + 1) decoder) (encodeList members) members
  | [], _, _ => .nil
  | member :: rest, ⟨here, there⟩, within =>
      .cons ((formed member here).accepts within) (accepts_list rest there within)

end Member

/-! ## Whole trees -/

theorem Identifier.accepts (name : Identifier) :
    Accepts limit Identifier.decoder name.encode name :=
  .map Identifier.mk (.string name.raw)

theorem ScriptFlag.accepts (flag : ScriptFlag) :
    Accepts limit ScriptFlag.decoder (.str flag.name) flag :=
  .enum (by cases flag <;> rfl)

theorem Script.accepts (script : Script)
    (dotted : Member.EveryNameList QualifiedName.Dotted script.members) (within : limit < levels) :
    Accepts (limit + 3) Script.decoder script.encode script :=
  .record ⟨.cons script.name.accepts (.cons script.parent.accepts
    (.cons (.list_map fun flag _ => flag.accepts)
      (.cons (.list (Member.accepts_list script.members dotted within)) .nil))), rfl⟩ rfl

theorem Directive.accepts (directive : Directive) :
    Accepts (limit + 1) Directive.decoder directive.encode directive := by
  cases directive with
  | define name value =>
      exact Selects.accepts "Directive" (.record rfl ⟨.cons (.string name)
        (.cons (.option nofun fun text _ => .string text) .nil), rfl⟩ rfl)
  | includeFile path =>
      exact Selects.accepts "Directive" (.record rfl ⟨.cons (.string path) .nil, rfl⟩ rfl)

theorem SyntaxTree.accepts (tree : SyntaxTree) (dotted : tree.EveryName QualifiedName.Dotted)
    (within : limit < levels) : Accepts (limit + 4) SyntaxTree.decoder tree.encode tree :=
  .record ⟨.cons (.list_map fun directive _ => directive.accepts)
    (.cons (tree.script.accepts dotted within) .nil), rfl⟩ rfl

/-! ## Reading a text -/

/-- A text of the value, with white space around it. -/
inductive Json.SpelledBy (json : Json) (text : String) : Prop where
  | intro {before cs after : List Char} (chars : text.toList = before ++ (cs ++ after))
      (blank : Blank before) (spelled : Spells json cs) (blank' : Blank after)

theorem Json.spelledBy_render {json : Json} (free : json.isNumberFree = true) :
    json.SpelledBy json.render := by
  refine ⟨?_, Blank.nil, spells_chars json free, Blank.nil⟩
  rw [render, String.toList_ofList, List.nil_append, List.append_nil]

theorem Json.Decoder.Accepts.read {α : Type} {decoder : Decoder α} {json : Json} {a : α}
    {text : String} (accepts : Accepts depthLimit decoder json a)
    (shallow : json.depth ≤ depthLimit) (spelled : json.SpelledBy text) :
    decoder.read text = .ok a := by
  obtain @⟨before, cs, after, chars, blank, spelled, blank'⟩ := spelled
  -- The decoder stops at the white space after the value, where the text must end.
  obtain ⟨middle, ran, there⟩ :=
    accepts.text shallow after spelled blank (Cursor.start text) chars
  obtain ⟨last, ended, -⟩ := Reads.token_end blank' middle there
  simp only [Decoder.read, bind, EStateM.bind, ran, ended]
  rfl

/-- Reading gives the tree back from every text of its form, the written one among them, and
reports what its identifiers give rise to. -/
theorem SyntaxTree.read_encode (tree : SyntaxTree) (dotted : tree.EveryName QualifiedName.Dotted)
    (shallow : tree.encode.depth ≤ 127) :
    SyntaxTree.read tree.encode.render = (some tree, tree.identifierDiagnostics) ∧
      ∀ text, tree.encode.SpelledBy text →
        SyntaxTree.read text = (some tree, tree.identifierDiagnostics) := by
  -- The tree, its script, the list of members and a member take one level each.
  have accepts : Accepts Json.depthLimit SyntaxTree.decoder tree.encode tree :=
    tree.accepts dotted (by decide)
  have back : ∀ text, tree.encode.SpelledBy text →
      SyntaxTree.read text = (some tree, tree.identifierDiagnostics) := by
    intro text spelled
    rw [read, accepts.read shallow spelled]
  exact ⟨back _ (Json.spelledBy_render accepts.numberFree), back⟩

/-- A tree with a dotted name, an ill-formed identifier and a string that needs escapes. -/
def SyntaxTree.greeting : SyntaxTree where
  directives := [.define "debug" none]
  script :=
    { name := ⟨"Quest::Main"⟩
      parent := ⟨"1Quest"⟩
      flags := [.hidden]
      members :=
        [.function
          { returnType := none
            name := ⟨"Greet"⟩
            params := []
            modifiers := []
            body :=
              [.expr (.call ⟨[⟨"self"⟩, ⟨"Say"⟩]⟩
                [.literal (.string "a \"b\" \\ \t \x01 𝄞")])] }] }

theorem SyntaxTree.read_encode_greeting :
    (greeting.EveryName QualifiedName.Dotted ∧ greeting.encode.depth ≤ 127) ∧
      SyntaxTree.read greeting.encode.render = (some greeting, greeting.identifierDiagnostics) := by
  have dotted : greeting.EveryName QualifiedName.Dotted :=
    ⟨⟨nofun, ⟨⟨by decide, by decide⟩, trivial, trivial⟩, trivial⟩, trivial⟩
  have shallow : greeting.encode.depth ≤ 127 := by decide
  exact ⟨⟨dotted, shallow⟩, (greeting.read_encode dotted shallow).1⟩

end PapyrusWriter
