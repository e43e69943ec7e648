import Mathlib.Data.List.Nodup
import PapyrusWriter.Proofs.IdentifierForm
import PapyrusWriter.Proofs.TreeFormat
/-!
# The identifier check is exact

`TreePart.children` says what a part of a script consists of, one level at a time: it lists every
field that is an identifier or may hold one. An identifier occurs in a script where a path of such
steps leads to it (`TreePart.at?`), whatever the way, so also in conditional blocks.

The diagnostics of a tree are those of the ill-formed identifiers at all these places, one for each
place (`SyntaxTree.identifierDiagnostics_exact`).
-/

namespace PapyrusWriter

set_option autoImplicit false

/-! ## Parts of a script -/

/-- A part of a script. -/
inductive TreePart where
  | script (script : Script)
  | member (member : Member)
  | variable (decl : VariableDecl)
  | inferred (decl : InferredVariable)
  | param (param : Param)
  | stmt (stmt : Stmt)
  | branch (branch : Branch)
  | expr (expr : Expr)
  | field (field : FieldInit)
  | qualified (role : Role) (name : QualifiedName)
  | type (type : TypeRef)
  | identifier (occurrence : Occurrence)

namespace TreePart

def ofBlock (body : Option (List Stmt)) : List TreePart := (body.getD []).map stmt

/-- The parts of which a part consists, in source order. -/
def children : TreePart → List TreePart
  | .script whole =>
      .identifier ⟨.scriptName, whole.name⟩ :: .identifier ⟨.scriptParent, whole.parent⟩ ::
        whole.members.map .member
  | .member (.importScript _) => []
  | .member (.variable decl) => [.variable decl]
  | .member (.inferred decl) => [.inferred decl]
  | .member (.autoProperty property) =>
      .type property.type :: .identifier ⟨.property, property.name⟩ ::
        property.init.toList.map .expr
  | .member (.fullProperty property) =>
      .type property.type :: .identifier ⟨.property, property.name⟩ ::
        (ofBlock property.getter ++ ofBlock property.setter)
  | .member (.function decl) =>
      decl.returnType.toList.map .type ++ .identifier ⟨.function, decl.name⟩ ::
        (decl.params.map .param ++ decl.body.map .stmt)
  | .member (.event decl) =>
      .identifier ⟨.event, decl.name⟩ :: (decl.params.map .param ++ decl.body.map .stmt)
  | .member (.state name _ members) => .identifier ⟨.state, name⟩ :: members.map .member
  | .member (.struct decl) => .identifier ⟨.struct, decl.name⟩ :: decl.members.map .variable
  | .member (.group name _ members) => .identifier ⟨.group, name⟩ :: members.map .member
  | .member (.conditional _ body) => body.map .member
  | .variable decl =>
      .type decl.type :: .identifier ⟨.variable, decl.name⟩ :: decl.init.toList.map .expr
  | .inferred decl => .identifier ⟨.variable, decl.name⟩ :: decl.init.toList.map .expr
  | .param decl =>
      .type decl.type :: .identifier ⟨.parameter, decl.name⟩ :: decl.default.toList.map .expr
  | .stmt (.expr inner) => [.expr inner]
  | .stmt (.ret value) => value.toList.map .expr
  | .stmt (.variable decl) => [.variable decl]
  | .stmt (.inferred decl) => [.inferred decl]
  | .stmt (.ifElse condition body elseIfs elseBody) =>
      .expr condition :: (body.map .stmt ++ (elseIfs.map .branch ++ ofBlock elseBody))
  | .stmt (.while condition body) => .expr condition :: body.map .stmt
  | .stmt (.range element array body) =>
      .identifier ⟨.rangeElement, element⟩ :: .identifier ⟨.rangeArray, array⟩ :: body.map .stmt
  | .stmt (.switch subject cases default) =>
      .expr subject :: (cases.map .branch ++ ofBlock default)
  | .stmt (.conditional _ body) => body.map .stmt
  | .branch (.mk guard body) => .expr guard :: body.map .stmt
  | .expr (.literal _) => []
  | .expr (.name name) => [.qualified .name name]
  | .expr (.binary lhs _ rhs) => [.expr lhs, .expr rhs]
  | .expr (.not operand) => [.expr operand]
  | .expr (.negate operand) => [.expr operand]
  | .expr (.paren inner) => [.expr inner]
  | .expr (.assign target _ value) => [.expr target, .expr value]
  | .expr (.call callee args) => .qualified .call callee :: args.map .expr
  | .expr (.index array position) => [.expr array, .expr position]
  | .expr (.newArray elementType size) => [.type elementType, .expr size]
  | .expr (.newStruct structType) => [.type structType]
  | .expr (.arrayInit _) => []
  | .expr (.structInit fields) => fields.map .field
  | .expr (.cast operand target) => [.expr operand, .type target]
  | .expr (.is operand target) => [.expr operand, .type target]
  | .expr (.increment target) => [.qualified .stepTarget target]
  | .expr (.decrement target) => [.qualified .stepTarget target]
  | .field (.mk name value) => [.identifier ⟨.structField, name⟩, .expr value]
  | .qualified role name => name.segments.map fun segment => .identifier ⟨role, segment⟩
  | .type named => [.identifier ⟨.type, named.name⟩]
  | .identifier _ => []

def isIdentifier : TreePart → Bool
  | .identifier _ => true
  | _ => false

/-- The part at the end of a path; each step of it is the number of a child. -/
def at? : TreePart → List Nat → Option TreePart
  | part, [] => some part
  | part, i :: path => part.children[i]? >>= fun child => child.at? path

/-! ## Lists of all identifiers -/

/-- An identifier with the path that leads to it. -/
abbrev Site := List Nat × Occurrence

/-- The sites are the identifiers of the part, each place once. -/
structure Enumerates (part : TreePart) (sites : List Site) : Prop where
  distinct : (sites.map Prod.fst).Nodup
  exact : ∀ path occurrence,
    (path, occurrence) ∈ sites ↔ part.at? path = some (.identifier occurrence)

/-- The identifiers of the part are those of the list, in some order of their places. -/
def Lists (part : TreePart) (found : List Occurrence) : Prop :=
  ∃ sites, part.Enumerates sites ∧ sites.map Prod.snd = found

/-- The same of parts in a row. -/
inductive ListsAll : List TreePart → List Occurrence → Prop where
  | nil : ListsAll [] []
  | cons {part : TreePart} {rest : List TreePart} {found others : List Occurrence} :
      part.Lists found → ListsAll rest others → ListsAll (part :: rest) (found ++ others)

theorem ListsAll.append {front back : List TreePart} {found others : List Occurrence}
    (fronts : ListsAll front found) (backs : ListsAll back others) :
    ListsAll (front ++ back) (found ++ others) := by
  induction fronts with
  | nil => exact backs
  | cons first _ ih =>
      rw [List.append_assoc]
      exact .cons first ih

/-- The identifiers of parts in a row, each with the number of its part and the path from there. -/
structure EnumeratesChildren (parts : List TreePart)
    (sites : List ((Nat × List Nat) × Occurrence)) : Prop where
  distinct : (sites.map Prod.fst).Nodup
  exact : ∀ i path occurrence, ((i, path), occurrence) ∈ sites ↔
    ∃ child, parts[i]? = some child ∧ child.at? path = some (.identifier occurrence)

/-- The first part has the number 0, and the other parts move up by one. -/
theorem EnumeratesChildren.cons {part : TreePart} {rest : List TreePart} {sites : List Site}
    {others : List ((Nat × List Nat) × Occurrence)} (first : part.Enumerates sites)
    (later : EnumeratesChildren rest others) :
    EnumeratesChildren (part :: rest)
      (sites.map (fun site => ((0, site.1), site.2)) ++
        others.map fun site => ((site.1.1 + 1, site.1.2), site.2)) where
  distinct := by
    rw [List.map_append, List.map_map, List.map_map, List.nodup_append]
    refine ⟨?_, ?_, ?_⟩
    · have injective : Function.Injective fun path : List Nat => (0, path) := by
        intro a b same
        simpa using same
      simpa [Function.comp_def] using first.distinct.map injective
    · have injective : Function.Injective fun place : Nat × List Nat => (place.1 + 1, place.2) := by
        intro a b same
        simpa [Prod.ext_iff] using same
      simpa [Function.comp_def] using later.distinct.map injective
    · rintro place here other there rfl
      obtain ⟨site, -, first⟩ := List.mem_map.mp here
      obtain ⟨site', -, second⟩ := List.mem_map.mp there
      cases first.trans second.symm
  exact := by
    intro i path occurrence
    cases i with
    | zero => simpa using first.exact path occurrence
    | succ i => simpa using later.exact i path occurrence

theorem ListsAll.enumerates {parts : List TreePart} {found : List Occurrence}
    (all : ListsAll parts found) :
    ∃ sites, EnumeratesChildren parts sites ∧ sites.map Prod.snd = found := by
  induction all with
  | nil => exact ⟨[], ⟨List.nodup_nil, by simp⟩, rfl⟩
  | cons first _ ih =>
      obtain ⟨sites, enumerates, rfl⟩ := first
      obtain ⟨others, enumeratesOthers, rfl⟩ := ih
      refine ⟨_, EnumeratesChildren.cons enumerates enumeratesOthers, ?_⟩
      simp [Function.comp_def]

theorem lists_identifier (occurrence : Occurrence) :
    (TreePart.identifier occurrence).Lists [occurrence] := by
  refine ⟨[([], occurrence)], ⟨by simp, fun path other => ?_⟩, rfl⟩
  cases path with
  | nil => simp [at?, eq_comm]
  | cons i path => simp [at?, children]

/-- A part that is no identifier itself has the identifiers of its children. -/
theorem ListsAll.part {part : TreePart} {found : List Occurrence}
    (all : ListsAll part.children found) (composed : part.isIdentifier = false) :
    part.Lists found := by
  obtain ⟨sites, enumerates, rfl⟩ := all.enumerates
  refine ⟨sites.map fun site => (site.1.1 :: site.1.2, site.2), ⟨?_, fun path occurrence => ?_⟩, ?_⟩
  · have injective : Function.Injective fun place : Nat × List Nat => place.1 :: place.2 := by
      intro a b same
      simpa [Prod.ext_iff] using same
    simpa [Function.comp_def] using enumerates.distinct.map injective
  · cases path with
    | nil =>
        have other : part ≠ .identifier occurrence := by
          rintro rfl
          cases composed
        simp [at?, other]
    | cons i path =>
        rw [at?, Option.bind_eq_bind, Option.bind_eq_some_iff, ← enumerates.exact]
        simp
  · simp [Function.comp_def]

theorem ListsAll.identifier {rest : List TreePart} {others : List Occurrence}
    (occurrence : Occurrence) (later : ListsAll rest others) :
    ListsAll (.identifier occurrence :: rest) (occurrence :: others) :=
  .cons (lists_identifier occurrence) later

theorem ListsAll.last {part : TreePart} {found : List Occurrence} (lists : part.Lists found) :
    ListsAll [part] found := by
  simpa using ListsAll.cons lists .nil

theorem ListsAll.map {α : Type} {toPart : α → TreePart} {toFound : α → List Occurrence}
    (each : ∀ a, (toPart a).Lists (toFound a)) (items : List α) :
    ListsAll (items.map toPart) (items.flatMap toFound) := by
  induction items with
  | nil => exact .nil
  | cons item rest ih => exact .cons (each item) ih

end TreePart

/-! ## The check visits every part -/

open TreePart (ListsAll)

theorem QualifiedName.lists (role : Role) (name : QualifiedName) :
    (TreePart.qualified role name).Lists (name.occurrences role) := by
  have segments : ListsAll (TreePart.qualified role name).children _ :=
    ListsAll.map (fun segment => TreePart.lists_identifier ⟨role, segment⟩) name.segments
  rw [← List.map_eq_flatMap] at segments
  exact segments.part rfl

theorem TypeRef.lists (type : TypeRef) : (TreePart.type type).Lists type.occurrences :=
  ListsAll.part (.identifier _ .nil) rfl

mutual

theorem Expr.lists : ∀ expr : Expr, (TreePart.expr expr).Lists expr.occurrences
  | .literal _ => ListsAll.part .nil rfl
  | .name qualified => ListsAll.part (.last (qualified.lists .name)) rfl
  | .binary lhs _ rhs =>
      ListsAll.part (.cons (Expr.lists lhs) (.last (Expr.lists rhs))) rfl
  | .not operand => ListsAll.part (.last (Expr.lists operand)) rfl
  | .negate operand => ListsAll.part (.last (Expr.lists operand)) rfl
  | .paren inner => ListsAll.part (.last (Expr.lists inner)) rfl
  | .assign target _ value =>
      ListsAll.part (.cons (Expr.lists target) (.last (Expr.lists value))) rfl
  | .call callee args => ListsAll.part (.cons (callee.lists .call) (Expr.listsAll args)) rfl
  | .index array position =>
      ListsAll.part (.cons (Expr.lists array) (.last (Expr.lists position))) rfl
  | .newArray elementType size =>
      ListsAll.part (.cons elementType.lists (.last (Expr.lists size))) rfl
  | .newStruct structType => ListsAll.part (.last structType.lists) rfl
  | .arrayInit _ => ListsAll.part .nil rfl
  | .structInit fields => ListsAll.part (Expr.listsAll_fields fields) rfl
  | .cast operand target =>
      ListsAll.part (.cons (Expr.lists operand) (.last target.lists)) rfl
  | .is operand target =>
      ListsAll.part (.cons (Expr.lists operand) (.last target.lists)) rfl
  | .increment target => ListsAll.part (.last (target.lists .stepTarget)) rfl
  | .decrement target => ListsAll.part (.last (target.lists .stepTarget)) rfl

theorem Expr.listsAll : ∀ exprs : List Expr,
    ListsAll (exprs.map .expr) (Expr.listOccurrences exprs)
  | [] => .nil
  | expr :: rest => .cons (Expr.lists expr) (Expr.listsAll rest)

theorem Expr.listsAll_fields : ∀ fields : List FieldInit,
    ListsAll (fields.map .field) (Expr.fieldOccurrences fields)
  | [] => .nil
  | .mk field value :: rest => by
      have first : (TreePart.field (.mk field value)).Lists
          (⟨.structField, field⟩ :: value.occurrences) :=
        ListsAll.part (.identifier _ (.last (Expr.lists value))) rfl
      exact .cons first (Expr.listsAll_fields rest)

end

theorem Expr.listsAll_option (value : Option Expr) :
    ListsAll (value.toList.map .expr) (Expr.optionOccurrences value) := by
  cases value with
  | none => exact .nil
  | some expr => exact .last expr.lists

theorem VariableDecl.lists (decl : VariableDecl) :
    (TreePart.variable decl).Lists decl.occurrences :=
  ListsAll.part (.cons decl.type.lists (.identifier _ (Expr.listsAll_option decl.init))) rfl

theorem InferredVariable.lists (decl : InferredVariable) :
    (TreePart.inferred decl).Lists decl.occurrences :=
  ListsAll.part (.identifier _ (Expr.listsAll_option decl.init)) rfl

theorem Param.lists (param : Param) : (TreePart.param param).Lists param.occurrences :=
  ListsAll.part (.cons param.type.lists (.identifier _ (Expr.listsAll_option param.default))) rfl

mutual

theorem Stmt.lists : ∀ stmt : Stmt, (TreePart.stmt stmt).Lists stmt.occurrences
  | .expr inner => ListsAll.part (.last inner.lists) rfl
  | .ret value => ListsAll.part (Expr.listsAll_option value) rfl
  | .variable decl => ListsAll.part (.last decl.lists) rfl
  | .inferred decl => ListsAll.part (.last decl.lists) rfl
  | .ifElse condition body elseIfs elseBody => by
      rw [Stmt.occurrences, List.append_assoc, List.append_assoc]
      refine ListsAll.part (.cons condition.lists ((Stmt.listsAll body).append ?_)) rfl
      exact (Stmt.listsAll_branches elseIfs).append (Stmt.listsAll_option elseBody)
  | .while condition body => ListsAll.part (.cons condition.lists (Stmt.listsAll body)) rfl
  | .range _ _ body =>
      ListsAll.part (.identifier _ (.identifier _ (Stmt.listsAll body))) rfl
  | .switch subject cases default => by
      rw [Stmt.occurrences, List.append_assoc]
      refine ListsAll.part (.cons subject.lists ?_) rfl
      exact (Stmt.listsAll_branches cases).append (Stmt.listsAll_option default)
  | .conditional _ body => ListsAll.part (Stmt.listsAll body) rfl

theorem Stmt.listsAll : ∀ body : List Stmt, ListsAll (body.map .stmt) (Stmt.listOccurrences body)
  | [] => .nil
  | stmt :: rest => .cons (Stmt.lists stmt) (Stmt.listsAll rest)

theorem Stmt.listsAll_option : ∀ body : Option (List Stmt),
    ListsAll (TreePart.ofBlock body) (Stmt.optionOccurrences body)
  | none => .nil
  | some body => Stmt.listsAll body

theorem Stmt.listsAll_branches : ∀ branches : List Branch,
    ListsAll (branches.map .branch) (Stmt.branchOccurrences branches)
  | [] => .nil
  | .mk guard body :: rest =>
      .cons (ListsAll.part (.cons guard.lists (Stmt.listsAll body)) rfl)
        (Stmt.listsAll_branches rest)

end

mutual

theorem Member.lists : ∀ member : Member, (TreePart.member member).Lists member.occurrences
  | .importScript _ => ListsAll.part .nil rfl
  | .variable decl => ListsAll.part (.last decl.lists) rfl
  | .inferred decl => ListsAll.part (.last decl.lists) rfl
  | .autoProperty property =>
      ListsAll.part
        (.cons property.type.lists (.identifier _ (Expr.listsAll_option property.init))) rfl
  | .fullProperty property =>
      ListsAll.part
        (.cons property.type.lists <| .identifier _ <|
          (Stmt.listsAll_option property.getter).append (Stmt.listsAll_option property.setter))
        rfl
  | .function decl => by
      have rest := ListsAll.identifier ⟨.function, decl.name⟩
        ((ListsAll.map Param.lists decl.params).append (Stmt.listsAll decl.body))
      obtain ⟨returnType, name, params, modifiers, body⟩ := decl
      cases returnType with
      | none => exact ListsAll.part rest rfl
      | some type => exact ListsAll.part (.cons type.lists rest) rfl
  | .event decl =>
      ListsAll.part
        (.identifier _ ((ListsAll.map Param.lists decl.params).append (Stmt.listsAll decl.body)))
        rfl
  | .state _ _ members => ListsAll.part (.identifier _ (Member.listsAll members)) rfl
  | .struct decl =>
      ListsAll.part (.identifier _ (ListsAll.map VariableDecl.lists decl.members)) rfl
  | .group _ _ members => ListsAll.part (.identifier _ (Member.listsAll members)) rfl
  | .conditional _ body => ListsAll.part (Member.listsAll body) rfl

theorem Member.listsAll : ∀ members : List Member,
    ListsAll (members.map .member) (Member.listOccurrences members)
  | [] => .nil
  | member :: rest => .cons (Member.lists member) (Member.listsAll rest)

end

theorem Script.lists (script : Script) : (TreePart.script script).Lists script.occurrences :=
  ListsAll.part (.identifier _ (.identifier _ (Member.listsAll script.members))) rfl

/-! ## The diagnostics -/

theorem Occurrence.diagnostic?_eq_none {occurrence : Occurrence}
    (formed : occurrence.name.isWellFormed = true) : occurrence.diagnostic? = none := by
  rw [diagnostic?, if_pos formed]

theorem Occurrence.diagnostic?_eq_some {occurrence : Occurrence}
    (illFormed : occurrence.name.isWellFormed = false) :
    occurrence.diagnostic? =
      some ⟨none, "invalid identifier \"" ++ occurrence.name.raw ++ "\" in " ++
        occurrence.role.text⟩ := by
  rw [diagnostic?, if_neg (by simp [illFormed])]

/-- The diagnostics of a list of sites are those of the ill-formed ones. -/
theorem TreePart.filterMap_diagnostic? (sites : List TreePart.Site) :
    (sites.map Prod.snd).filterMap Occurrence.diagnostic? =
      (sites.filter fun site => !site.2.name.isWellFormed).map fun site =>
        ⟨none, "invalid identifier \"" ++ site.2.name.raw ++ "\" in " ++ site.2.role.text⟩ := by
  induction sites with
  | nil => rfl
  | cons site rest ih =>
      rw [List.map_cons]
      cases formed : site.2.name.isWellFormed with
      | true =>
          rw [List.filterMap_cons_none (Occurrence.diagnostic?_eq_none formed), ih,
            List.filter_cons_of_neg (by simp [formed])]
      | false =>
          rw [List.filterMap_cons_some (Occurrence.diagnostic?_eq_some formed), ih,
            List.filter_cons_of_pos (by simp [formed]), List.map_cons]

/-- The ill-formed identifiers of a script, each place once, and their diagnostics. -/
theorem SyntaxTree.exists_sites (tree : SyntaxTree) :
    ∃ sites : List TreePart.Site, (sites.map Prod.fst).Nodup ∧
      (∀ path occurrence, (path, occurrence) ∈ sites ↔
        (TreePart.script tree.script).at? path = some (.identifier occurrence) ∧
          ¬ occurrence.name.WellFormed) ∧
      tree.identifierDiagnostics = sites.map fun site =>
        ⟨none, "invalid identifier \"" ++ site.2.name.raw ++ "\" in " ++ site.2.role.text⟩ := by
  obtain ⟨sites, enumerates, all⟩ := tree.script.lists
  refine ⟨sites.filter fun site => !site.2.name.isWellFormed, ?_, ?_, ?_⟩
  · exact enumerates.distinct.sublist (List.filter_sublist.map Prod.fst)
  · intro path occurrence
    rw [List.mem_filter, enumerates.exact, ← Identifier.isWellFormed_iff]
    simp
  · rw [identifierDiagnostics, ← all, TreePart.filterMap_diagnostic?]

/-- A tree that is read comes with the diagnostics of its identifiers. -/
theorem SyntaxTree.diagnostics_of_read {text : String} {tree : SyntaxTree}
    {diagnostics : List Diagnostic} (read : SyntaxTree.read text = (some tree, diagnostics)) :
    diagnostics = tree.identifierDiagnostics := by
  unfold SyntaxTree.read at read
  cases result : SyntaxTree.decoder.read text with
  | ok found =>
      rw [result] at read
      cases read
      rfl
  | error error =>
      rw [result] at read
      cases read

/-- Every ill-formed identifier of a script is reported once for each place where it occurs, without
a position, and nothing else is reported. So a tree is read without diagnostics exactly if all its
identifiers are well formed; then none ends in a line feed, has a single colon, or has three in a
row. -/
theorem SyntaxTree.identifierDiagnostics_exact (tree : SyntaxTree) :
    (∃ sites : List (List Nat × Occurrence), (sites.map Prod.fst).Nodup ∧
      (∀ path occurrence, (path, occurrence) ∈ sites ↔
        (TreePart.script tree.script).at? path = some (.identifier occurrence) ∧
          ¬ occurrence.name.WellFormed) ∧
      tree.identifierDiagnostics = sites.map fun site =>
        ⟨none, "invalid identifier \"" ++ site.2.name.raw ++ "\" in " ++ site.2.role.text⟩) ∧
    (∀ text diagnostics, SyntaxTree.read text = (some tree, diagnostics) →
      (diagnostics = [] ↔ ∀ path occurrence,
        (TreePart.script tree.script).at? path = some (.identifier occurrence) →
          occurrence.name.WellFormed)) ∧
    ∀ name : Identifier, name.WellFormed →
      (∀ front, name.raw.toList ≠ front ++ ['\n']) ∧
      (∀ front back, name.raw.toList = front ++ ':' :: back →
        front.getLast? = some ':' ∨ back.head? = some ':') ∧
      ∀ front back, name.raw.toList ≠ front ++ ':' :: ':' :: ':' :: back := by
  obtain ⟨sites, distinct, exact, reported⟩ := tree.exists_sites
  refine ⟨⟨sites, distinct, exact, reported⟩, ?_, ?_⟩
  · intro text diagnostics read
    rw [diagnostics_of_read read, reported, List.map_eq_nil_iff, List.eq_nil_iff_forall_not_mem]
    constructor
    · intro none path occurrence here
      by_contra illFormed
      exact none _ ((exact path occurrence).mpr ⟨here, illFormed⟩)
    · rintro formed ⟨path, occurrence⟩ member
      obtain ⟨here, illFormed⟩ := (exact path occurrence).mp member
      exact illFormed (formed path occurrence here)
  · intro name formed
    have accepted : Identifier.wellFormedFrom true name.raw.toList = true :=
      (Identifier.isWellFormed_iff name).mpr formed
    refine ⟨fun front ends => ?_, fun front back split => ?_, fun front back split => ?_⟩
    · have last := Identifier.char_of_wellFormedFrom true _ accepted '\n' (by simp [ends])
      rw [← Identifier.isPartChar_iff] at last
      revert last
      decide
    · exact (Identifier.colonPaired_of_wellFormedFrom true _ accepted front _ split).1
    · have paired := Identifier.colonPaired_of_wellFormedFrom true _ accepted front _ split
      exact paired.2 back rfl

/-- A tree with an ill-formed parent, and a text that is read as this tree. -/
theorem SyntaxTree.greeting_identifierDiagnostics :
    SyntaxTree.read greeting.encode.render = (some greeting, greeting.identifierDiagnostics) ∧
      (greeting.identifierDiagnostics = [] ↔ ∀ path occurrence,
        (TreePart.script greeting.script).at? path = some (.identifier occurrence) →
          occurrence.name.WellFormed) ∧
      (TreePart.script greeting.script).at? [1] = some (.identifier ⟨.scriptParent, ⟨"1Quest"⟩⟩) ∧
      greeting.identifierDiagnostics =
        [⟨none, "invalid identifier \"1Quest\" in script parent"⟩] ∧
      (Identifier.mk "Quest::Main").WellFormed ∧
      ∀ front, (Identifier.mk "Quest::Main").raw.toList ≠ front ++ ['\n'] := by
  have dotted : greeting.EveryName QualifiedName.Dotted :=
    ⟨⟨nofun, ⟨⟨by decide, by decide⟩, trivial, trivial⟩, trivial⟩, trivial⟩
  have accepts : Json.Decoder.Accepts Json.depthLimit SyntaxTree.decoder greeting.encode greeting :=
    greeting.accepts dotted (by decide)
  have read : SyntaxTree.read greeting.encode.render =
      (some greeting, greeting.identifierDiagnostics) := by
    rw [SyntaxTree.read,
      accepts.read (by decide) (Json.spelledBy_render accepts.numberFree)]
  have formed : (Identifier.mk "Quest::Main").WellFormed :=
    (Identifier.isWellFormed_iff _).mp rfl
  obtain ⟨-, reads, forms⟩ := greeting.identifierDiagnostics_exact
  exact ⟨read, reads _ _ read, rfl, rfl, formed, (forms _ formed).1⟩

end PapyrusWriter
