import Mathlib.Data.List.Forall2
import Mathlib.Data.List.Induction
import PapyrusWriter.Directive.Preprocess
/-!
# First positions and last values

Preprocessing fails with the first file that cannot be read, whatever is defined before it. If all
files can be read, their texts are in the order of the directives, and the table is told by the
definitions alone: a name stands where it was first given, those of the seed in front, and its value
is the last one (`preprocess_exact`). So definitions in front of all other directives may as well be
inserted into the seed.
-/

namespace PapyrusWriter

set_option autoImplicit false

/-! ## Insertion -/

/-- A name that is there keeps its position; a new one comes last. -/
theorem keys_insertLast (name value : String) (entries : List (String × String)) :
    (insertLast name value entries).map Prod.fst =
      if name ∈ entries.map Prod.fst then entries.map Prod.fst
      else entries.map Prod.fst ++ [name] := by
  induction entries with
  | nil => rfl
  | cons entry rest ih =>
      obtain ⟨key, old⟩ := entry
      by_cases same : key = name
      · simp [insertLast, same]
      · have other : name ≠ key := fun h => same h.symm
        rw [insertLast, if_neg same, List.map_cons, ih]
        simp only [List.map_cons, List.mem_cons, other, false_or]
        split <;> rfl

theorem mem_insertLast {name value : String} {entries : List (String × String)}
    (distinct : (entries.map Prod.fst).Nodup) (key held : String) :
    (key, held) ∈ insertLast name value entries ↔
      (key = name ∧ held = value) ∨ (key ≠ name ∧ (key, held) ∈ entries) := by
  induction entries with
  | nil => simp [insertLast]
  | cons entry rest ih =>
      obtain ⟨first, old⟩ := entry
      rw [List.map_cons, List.nodup_cons] at distinct
      by_cases same : first = name
      · subst same
        -- The name occurs here and, by distinctness, nowhere below.
        have below : (key, held) ∈ rest → key ≠ first := by
          rintro among rfl
          exact distinct.1 (List.mem_map.mpr ⟨_, among, rfl⟩)
        rw [insertLast, if_pos rfl, List.mem_cons, List.mem_cons, Prod.mk.injEq, Prod.mk.injEq]
        tauto
      · rw [insertLast, if_neg same, List.mem_cons, List.mem_cons, ih distinct.2, Prod.mk.injEq]
        have apart : key = first → key ≠ name := by
          rintro rfl
          exact same
        tauto

theorem insertLast_of_notMem {name : String} (value : String) {entries : List (String × String)}
    (absent : name ∉ entries.map Prod.fst) :
    insertLast name value entries = entries ++ [(name, value)] := by
  induction entries with
  | nil => rfl
  | cons entry rest ih =>
      rw [List.map_cons, List.mem_cons, not_or] at absent
      rw [insertLast, if_neg (Ne.symm absent.1), ih absent.2, List.cons_append]

/-- The entries after insertions, in order. -/
def insertAll (entries additions : List (String × String)) : List (String × String) :=
  additions.foldl (fun entries addition => insertLast addition.1 addition.2 entries) entries

theorem nodup_insertAll {entries : List (String × String)} (additions : List (String × String))
    (distinct : (entries.map Prod.fst).Nodup) :
    ((insertAll entries additions).map Prod.fst).Nodup := by
  induction additions generalizing entries with
  | nil => exact distinct
  | cons addition rest ih => exact ih (nodup_insertLast _ _ _ distinct)

/-- The new names come after the others, each where it is first inserted. -/
theorem keys_insertAll (entries additions : List (String × String)) :
    (insertAll entries additions).map Prod.fst = entries.map Prod.fst ++
      ((additions.map Prod.fst).filter (· ∉ entries.map Prod.fst)).eraseDups := by
  induction additions generalizing entries with
  | nil => simp [insertAll]
  | cons addition rest ih =>
      obtain ⟨name, value⟩ := addition
      show (insertAll (insertLast name value entries) rest).map Prod.fst = _
      rw [ih, keys_insertLast, List.map_cons]
      by_cases known : name ∈ entries.map Prod.fst
      · rw [if_pos known, List.filter_cons_of_neg (by simpa using known)]
      · rw [if_neg known, List.filter_cons_of_pos (by simpa using known), List.eraseDups_cons,
          List.filter_filter, List.append_assoc, List.singleton_append]
        congr 3
        refine List.filter_congr fun other _ => ?_
        rw [Bool.eq_iff_iff]
        simp only [List.mem_append, List.mem_singleton, decide_eq_true_iff, Bool.and_eq_true,
          Bool.not_eq_true', beq_eq_false_iff_ne]
        tauto

theorem insertAll_of_nodup (entries additions : List (String × String))
    (distinct : ((entries ++ additions).map Prod.fst).Nodup) :
    insertAll entries additions = entries ++ additions := by
  induction additions generalizing entries with
  | nil => rw [List.append_nil]; rfl
  | cons addition rest ih =>
      have absent : addition.1 ∉ entries.map Prod.fst := by
        rw [List.map_append, List.nodup_append] at distinct
        intro known
        exact distinct.2.2 _ known _ (.head _) rfl
      show insertAll (insertLast addition.1 addition.2 entries) rest = _
      rw [insertLast_of_notMem addition.2 absent, ih, List.append_assoc, List.singleton_append]
      rwa [List.append_assoc, List.singleton_append]

/-- The entry of a name is the last one inserted, or an old one if none is. -/
theorem mem_insertAll {entries : List (String × String)} (additions : List (String × String))
    (distinct : (entries.map Prod.fst).Nodup) {key held : String}
    (among : (key, held) ∈ insertAll entries additions) :
    (∃ before after, additions = before ++ (key, held) :: after ∧ key ∉ after.map Prod.fst) ∨
      (key ∉ additions.map Prod.fst ∧ (key, held) ∈ entries) := by
  induction additions using List.reverseRecOn with
  | nil => exact .inr ⟨by simp, among⟩
  | append_singleton rest last ih =>
      obtain ⟨name, value⟩ := last
      rw [insertAll, List.foldl_append] at among
      rcases (mem_insertLast (nodup_insertAll rest distinct) key held).mp among with
        ⟨rfl, rfl⟩ | ⟨other, earlier⟩
      · exact .inl ⟨rest, [], rfl, by simp⟩
      · rcases ih earlier with ⟨before, after, rfl, unique⟩ | ⟨absent, old⟩
        · refine .inl ⟨before, after ++ [(name, value)], by simp, ?_⟩
          rw [List.map_append, List.mem_append]
          exact not_or.mpr ⟨unique, by simpa using other⟩
        · refine .inr ⟨?_, old⟩
          rw [List.map_append, List.mem_append]
          exact not_or.mpr ⟨absent, by simpa using other⟩

/-! ## The table -/

namespace DirectiveTable

theorem eq_of_entries {table other : DirectiveTable} (same : table.entries = other.entries) :
    table = other := by
  cases table
  cases other
  cases same
  rfl

/-- The table after definitions, in order. -/
def defineAll (table : DirectiveTable) (definitions : List (String × Option String)) :
    DirectiveTable :=
  definitions.foldl (fun table definition => table.define definition.1 definition.2) table

/-- A definition with the value that it gives. -/
def resolved (definition : String × Option String) : String × String :=
  (definition.1, definedValue definition.2)

theorem entries_defineAll (table : DirectiveTable) (definitions : List (String × Option String)) :
    (table.defineAll definitions).entries = insertAll table.entries (definitions.map resolved) := by
  induction definitions generalizing table with
  | nil => rfl
  | cons definition rest ih => exact ih (table.define definition.1 definition.2)

/-- An entry with the quotes of its value removed. -/
def unquoted (entry : String × String) : String × String := (entry.1, Text.stripQuotes entry.2)

theorem keys_unquoted (entries : List (String × String)) :
    (entries.map unquoted).map Prod.fst = entries.map Prod.fst := by
  rw [List.map_map]
  rfl

theorem ofList_eq (seed : List (String × String)) :
    ofList seed = empty.defineAll (seed.map fun entry => (entry.1, some entry.2)) := by
  rw [defineAll, List.foldl_map]
  rfl

/-- A seed with distinct names gives its entries, in its order. -/
theorem entries_ofList {seed : List (String × String)} (distinct : (seed.map Prod.fst).Nodup) :
    (ofList seed).entries = seed.map unquoted := by
  have names : (([] ++ seed.map unquoted).map Prod.fst).Nodup := by
    rwa [List.nil_append, keys_unquoted]
  rw [ofList_eq, entries_defineAll, List.map_map]
  exact insertAll_of_nodup [] (seed.map unquoted) names

theorem map_unquoted_insertLast (name value : String) (entries : List (String × String)) :
    (insertLast name value entries).map unquoted =
      insertLast name (Text.stripQuotes value) (entries.map unquoted) := by
  induction entries with
  | nil => rfl
  | cons entry rest ih =>
      obtain ⟨key, old⟩ := entry
      by_cases same : key = name
      · simp [insertLast, unquoted, same]
      · simp only [insertLast, unquoted, same, if_false, List.map_cons]
        exact congrArg _ ih

/-- What a definition inserts into a seed: its value as written, and `true` if it has none. -/
def written (definition : String × Option String) : String × String :=
  (definition.1, definition.2.getD "true")

theorem definedValue_eq (value : Option String) :
    definedValue value = Text.stripQuotes (value.getD "true") := by
  cases value with
  | none => decide
  | some value => rfl

/-- Defining on top of a seed is inserting into it. -/
theorem ofList_insertAll {seed : List (String × String)} (distinct : (seed.map Prod.fst).Nodup)
    (definitions : List (String × Option String)) :
    ofList (insertAll seed (definitions.map written)) = (ofList seed).defineAll definitions := by
  induction definitions generalizing seed with
  | nil => rfl
  | cons definition rest ih =>
      have inserted := nodup_insertLast definition.1 (definition.2.getD "true") seed distinct
      have first : ofList (insertLast definition.1 (definition.2.getD "true") seed) =
          (ofList seed).define definition.1 definition.2 := by
        apply eq_of_entries
        rw [entries_ofList inserted, map_unquoted_insertLast, ← definedValue_eq,
          ← entries_ofList distinct]
        rfl
      calc ofList (insertAll seed ((definition :: rest).map written))
          = (ofList (insertLast definition.1 (definition.2.getD "true") seed)).defineAll rest :=
            ih inserted
        _ = (ofList seed).defineAll (definition :: rest) := by rw [first]; rfl

end DirectiveTable

/-! ## Directives -/

/-- The definitions among directives. -/
def Directive.definitions : List Directive → List (String × Option String)
  | [] => []
  | .define name value :: rest => (name, value) :: Directive.definitions rest
  | .includeFile _ :: rest => Directive.definitions rest

/-- The paths of the files that directives include. -/
def Directive.paths : List Directive → List String
  | [] => []
  | .define _ _ :: rest => Directive.paths rest
  | .includeFile path :: rest => path :: Directive.paths rest

theorem Directive.mem_definitions (name : String) (given : Option String)
    (directives : List Directive) :
    (name, given) ∈ Directive.definitions directives ↔ .define name given ∈ directives := by
  fun_induction Directive.definitions directives with
  | case1 => simp
  | case2 other value rest ih => simp [ih]
  | case3 path rest ih => simp [ih]

/-- A place in the list of definitions is a place in the list of directives. -/
theorem Directive.definitions_eq_append {name : String} {given : Option String}
    {directives : List Directive} {front back : List (String × Option String)}
    (split : Directive.definitions directives = front ++ (name, given) :: back) :
    ∃ before after, directives = before ++ .define name given :: after ∧
      Directive.definitions after = back := by
  fun_induction Directive.definitions directives generalizing front with
  | case1 => simp at split
  | case2 other value rest ih =>
      cases front with
      | nil =>
          rw [List.nil_append, List.cons.injEq, Prod.mk.injEq] at split
          obtain ⟨⟨rfl, rfl⟩, rfl⟩ := split
          exact ⟨[], rest, rfl, rfl⟩
      | cons first front =>
          rw [List.cons_append, List.cons.injEq] at split
          obtain ⟨before, after, rfl, same⟩ := ih split.2
          exact ⟨.define other value :: before, after, rfl, same⟩
  | case3 path rest ih =>
      obtain ⟨before, after, rfl, same⟩ := ih split
      exact ⟨.includeFile path :: before, after, rfl, same⟩

/-- Why a file cannot be included. -/
def includeFault (path : String) (cause : SystemError) : TranspileError :=
  if cause = .notFound then .includeNotFound path else .includeUnreadable path cause

theorem readInclude_ok {read : FileReader} {root path text : String}
    (known : read (includePath root path) = .ok text) :
    (readInclude read root path).result = .ok text := by
  simp only [readInclude, known]
  rfl

theorem readInclude_error {read : FileReader} {root path : String} {cause : SystemError}
    (unreadable : read (includePath root path) = .error cause) :
    (readInclude read root path).result = .error (includeFault (includePath root path) cause) := by
  simp only [readInclude, unreadable]
  cases cause <;> rfl

/-- The error of a directive on its own. -/
def Directive.fault? (read : FileReader) (root : String) : Directive → Option TranspileError
  | .define _ _ => none
  | .includeFile path =>
      match read (includePath root path) with
      | .ok _ => none
      | .error cause => some (includeFault (includePath root path) cause)

section Taking

variable (read : FileReader) (root : String)

theorem Directive.fault?_includeFile (path : String) (error : TranspileError) :
    (Directive.includeFile path).fault? read root = some error ↔
      ∃ cause, read (includePath root path) = .error cause ∧
        error = includeFault (includePath root path) cause := by
  unfold fault?
  cases known : read (includePath root path) with
  | ok text => simp [known]
  | error cause => simp [known, eq_comm]

theorem Directive.fault?_eq_none_iff (path : String) :
    (Directive.includeFile path).fault? read root = none ↔
      ∃ text, read (includePath root path) = .ok text := by
  unfold fault?
  cases known : read (includePath root path) <;> simp [known]

/-- The first fault is that of the first file that cannot be read. -/
theorem Directive.findSome?_fault? (directives : List Directive) (error : TranspileError) :
    directives.findSome? (Directive.fault? read root) = some error ↔
      ∃ before path after cause, directives = before ++ .includeFile path :: after ∧
        (∀ earlier, .includeFile earlier ∈ before →
          ∃ text, read (includePath root earlier) = .ok text) ∧
        read (includePath root path) = .error cause ∧
        error = includeFault (includePath root path) cause := by
  rw [List.findSome?_eq_some_iff]
  constructor
  · rintro ⟨before, directive, after, rfl, fault, faultless⟩
    cases directive with
    | define name value => cases fault
    | includeFile path =>
        obtain ⟨cause, unreadable, rfl⟩ := (fault?_includeFile read root path error).mp fault
        refine ⟨before, path, after, cause, rfl, fun earlier among => ?_, unreadable, rfl⟩
        exact (fault?_eq_none_iff read root earlier).mp (faultless _ among)
  · rintro ⟨before, path, after, cause, rfl, readable, unreadable, rfl⟩
    refine ⟨before, _, after, rfl,
      (fault?_includeFile read root path _).mpr ⟨cause, unreadable, rfl⟩, fun directive among => ?_⟩
    cases directive with
    | define name value => rfl
    | includeFile earlier =>
        exact (fault?_eq_none_iff read root earlier).mpr (readable earlier among)

/-- There is a fault exactly if some file cannot be read. -/
theorem Directive.exists_fault?_iff (directives : List Directive) :
    (∃ error, directives.findSome? (Directive.fault? read root) = some error) ↔
      ∃ path cause, .includeFile path ∈ directives ∧
        read (includePath root path) = .error cause := by
  rw [← Option.isSome_iff_exists, List.findSome?_isSome_iff]
  constructor
  · rintro ⟨directive, among, fault⟩
    obtain ⟨error, fault⟩ := Option.isSome_iff_exists.mp fault
    cases directive with
    | define name value => cases fault
    | includeFile path =>
        obtain ⟨cause, unreadable, -⟩ := (fault?_includeFile read root path error).mp fault
        exact ⟨path, cause, among, unreadable⟩
  · rintro ⟨path, cause, among, unreadable⟩
    have fault := (fault?_includeFile read root path _).mpr ⟨cause, unreadable, rfl⟩
    exact ⟨_, among, Option.isSome_iff_exists.mpr ⟨_, fault⟩⟩

/-- Taking up directives fails with the first fault. -/
theorem takeDirectives_eq_error_iff (directives : List Directive) (state : Preprocessed)
    (error : TranspileError) :
    (takeDirectives read root directives state).result = .error error ↔
      directives.findSome? (Directive.fault? read root) = some error := by
  induction directives generalizing state with
  | nil => exact iff_of_false nofun nofun
  | cons directive rest ih =>
      cases directive with
      | define name value => exact ih (state.define name value)
      | includeFile path =>
          rw [takeDirectives, Logged.result_bind, List.findSome?_cons, Directive.fault?]
          cases known : read (includePath root path) with
          | ok text =>
              rw [readInclude_ok known]
              exact ih (state.addInclude text)
          | error cause =>
              rw [readInclude_error known]
              exact ⟨fun failed => congrArg some (Except.error.inj failed),
                fun found => congrArg Except.error (Option.some.inj found)⟩

/-- If it succeeds, definitions and included texts have nothing to do with each other. -/
theorem takeDirectives_ok {directives : List Directive} {state final : Preprocessed}
    (taken : (takeDirectives read root directives state).result = .ok final) :
    final.table = state.table.defineAll (Directive.definitions directives) ∧
      ∃ texts, final.includes = state.includes ++ texts ∧
        List.Forall₂ (fun path text => read (includePath root path) = .ok text)
          (Directive.paths directives) texts := by
  induction directives generalizing state with
  | nil =>
      cases taken
      exact ⟨rfl, [], by simp, .nil⟩
  | cons directive rest ih =>
      cases directive with
      | define name value => exact ih taken
      | includeFile path =>
          rw [takeDirectives, Logged.result_bind] at taken
          cases known : read (includePath root path) with
          | error cause =>
              rw [readInclude_error known] at taken
              cases taken
          | ok text =>
              rw [readInclude_ok known] at taken
              obtain ⟨table, texts, includes, each⟩ := ih taken
              refine ⟨table, text :: texts, ?_, .cons known each⟩
              rw [includes, Preprocessed.addInclude, List.append_assoc, List.singleton_append]

end Taking

/-! ## Preprocessing -/

theorem Text.notMem_stripQuotes (text : String) : '"' ∉ (Text.stripQuotes text).toList := by
  simp [Text.stripQuotes]

/-- The value that a name ends up with: that of its last definition or, if there is none, that of
the seed. -/
def Directive.FinalValue (seed : List (String × String)) (directives : List Directive)
    (name value : String) : Prop :=
  (∃ before given after, directives = before ++ .define name given :: after ∧
    (∀ later, .define name later ∉ after) ∧ value = given.elim "true" Text.stripQuotes) ∨
  ((∀ given, .define name given ∉ directives) ∧
    ∃ given, (name, given) ∈ seed ∧ value = Text.stripQuotes given)

theorem Directive.FinalValue.quoteless {seed : List (String × String)} {directives : List Directive}
    {name value : String} (final : Directive.FinalValue seed directives name value) :
    '"' ∉ value.toList := by
  rcases final with ⟨-, given, -, -, -, rfl⟩ | ⟨-, given, -, rfl⟩
  · cases given with
    | none => decide
    | some value => exact Text.notMem_stripQuotes value
  · exact Text.notMem_stripQuotes given

open DirectiveTable (resolved unquoted) in
theorem Directive.finalValue_of_mem {seed : List (String × String)} {directives : List Directive}
    (distinct : (seed.map Prod.fst).Nodup) {name value : String}
    (among : (name, value) ∈
      insertAll (seed.map unquoted) ((Directive.definitions directives).map resolved)) :
    Directive.FinalValue seed directives name value := by
  have names : ((seed.map unquoted).map Prod.fst).Nodup := by
    rwa [DirectiveTable.keys_unquoted]
  rcases mem_insertAll _ names among with ⟨before, after, split, unique⟩ | ⟨absent, old⟩
  · -- The last insertion of the name is its last definition.
    obtain ⟨front, rest, defined, -, mapped⟩ := List.map_eq_append_iff.mp split
    obtain ⟨⟨key, given⟩, back, rfl, same, rfl⟩ := List.map_eq_cons_iff.mp mapped
    obtain ⟨rfl, rfl⟩ := Prod.mk.inj same
    obtain ⟨before, after, rfl, rfl⟩ := Directive.definitions_eq_append defined
    refine .inl ⟨before, given, after, rfl, fun later among => unique ?_, ?_⟩
    · rw [List.map_map]
      exact List.mem_map.mpr ⟨_, (Directive.mem_definitions key later after).mpr among, rfl⟩
    · cases given <;> rfl
  · obtain ⟨⟨key, given⟩, member, same⟩ := List.mem_map.mp old
    obtain ⟨rfl, rfl⟩ := Prod.mk.inj same
    refine .inr ⟨fun given among => absent ?_, given, member, rfl⟩
    rw [List.map_map]
    exact List.mem_map.mpr ⟨_, (Directive.mem_definitions key given directives).mpr among, rfl⟩

/-- Definitions in front are taken up one after the other. -/
theorem takeDirectives_definitions (read : FileReader) (root : String)
    (definitions : List (String × Option String)) (rest : List Directive) (state : Preprocessed) :
    takeDirectives read root
        (definitions.map (fun given => Directive.define given.1 given.2) ++ rest) state =
      takeDirectives read root rest
        { state with table := state.table.defineAll definitions } := by
  induction definitions generalizing state with
  | nil => rfl
  | cons definition others ih => exact ih (state.define definition.1 definition.2)

/-- Preprocessing fails exactly if some file cannot be read, with the error of the first one.
Otherwise the texts are in the order of the directives; the names are those of the seed and then the
other ones by their first definitions; every name has its last value, without quotes. Definitions in
front of the other directives can be inserted into the seed instead. -/
theorem preprocess_exact (read : FileReader) (root : String) (seed : List (String × String))
    (directives : List Directive) (distinct : (seed.map Prod.fst).Nodup) :
    ((∃ error, (preprocess read root seed directives).result = .error error) ↔
      ∃ path cause, .includeFile path ∈ directives ∧
        read (includePath root path) = .error cause) ∧
    (∀ error, (preprocess read root seed directives).result = .error error ↔
      ∃ before path after cause, directives = before ++ .includeFile path :: after ∧
        (∀ earlier, .includeFile earlier ∈ before →
          ∃ text, read (includePath root earlier) = .ok text) ∧
        read (includePath root path) = .error cause ∧
        error = if cause = .notFound then .includeNotFound (includePath root path)
          else .includeUnreadable (includePath root path) cause) ∧
    (∀ state, (preprocess read root seed directives).result = .ok state →
      List.Forall₂ (fun path text => read (includePath root path) = .ok text)
        (Directive.paths directives) state.includes ∧
      (state.table.entries.map Prod.fst).Nodup ∧
      state.table.entries.map Prod.fst = seed.map Prod.fst ++
        (((Directive.definitions directives).map Prod.fst).filter
          (· ∉ seed.map Prod.fst)).eraseDups ∧
      ∀ name value, (name, value) ∈ state.table.entries →
        Directive.FinalValue seed directives name value ∧ '"' ∉ value.toList) ∧
    ∀ (definitions : List (String × Option String)) (rest : List Directive),
      directives = definitions.map (fun given => Directive.define given.1 given.2) ++ rest →
      preprocess read root
          (insertAll seed (definitions.map fun given => (given.1, given.2.getD "true"))) rest =
        preprocess read root seed directives := by
  have failure := takeDirectives_eq_error_iff read root directives ⟨.ofList seed, []⟩
  refine ⟨?fails, ?first, ?succeeds, ?moved⟩
  case fails =>
    rw [← Directive.exists_fault?_iff read root]
    exact exists_congr failure
  case first =>
    intro error
    exact (failure error).trans (Directive.findSome?_fault? read root directives error)
  case succeeds =>
    intro state taken
    obtain ⟨table, texts, includes, each⟩ := takeDirectives_ok read root taken
    have entries : state.table.entries = insertAll (seed.map DirectiveTable.unquoted)
        ((Directive.definitions directives).map DirectiveTable.resolved) := by
      rw [table, DirectiveTable.entries_defineAll, DirectiveTable.entries_ofList distinct]
    refine ⟨by rwa [includes], state.table.nodup, ?_, fun name value among => ?_⟩
    · rw [entries, keys_insertAll, DirectiveTable.keys_unquoted, List.map_map]
      rfl
    · have final := Directive.finalValue_of_mem distinct (entries ▸ among)
      exact ⟨final, final.quoteless⟩
  case moved =>
    rintro definitions rest rfl
    rw [preprocess, preprocess, takeDirectives_definitions,
      ← DirectiveTable.ofList_insertAll distinct]
    rfl

/-- A seed, of which one name is defined again. -/
def Directive.houseRules : List (String × String) := [("LIMIT", "\"3\""), ("GREETING", "\"Hi\"")]

/-- Two names that are defined twice, with an included file between their definitions. -/
def Directive.chapter : List Directive :=
  [.define "DEBUG" (some "false"), .define "LIMIT" none, .includeFile "\"shared.psc\"",
    .define "LIMIT" (some "\"5\""), .define "DEBUG" none]

/-- A place where only one file can be read. -/
def Directive.library : FileReader := fun path =>
  if path = "lib/shared.psc" then .ok "; shared\n" else .error .notFound

open Directive in
theorem preprocess_chapter :
    (houseRules.map Prod.fst).Nodup ∧
      (∃ state, (preprocess library "lib" houseRules chapter).result = .ok state ∧
        state.includes = ["; shared\n"] ∧
        state.table.entries = [("LIMIT", "5"), ("GREETING", "Hi"), ("DEBUG", "true")] ∧
        (state.table.entries.map Prod.fst).Nodup ∧
        FinalValue houseRules chapter "GREETING" "Hi" ∧
        FinalValue houseRules chapter "DEBUG" "true") ∧
      preprocess library "lib" [("LIMIT", "true"), ("GREETING", "\"Hi\""), ("DEBUG", "false")]
          (chapter.drop 2) =
        preprocess library "lib" houseRules chapter ∧
      ∃ error, (preprocess library "src" houseRules chapter).result = .error error := by
  have distinct : (houseRules.map Prod.fst).Nodup := by decide
  obtain ⟨-, -, succeeds, moved⟩ := preprocess_exact library "lib" houseRules chapter distinct
  obtain ⟨fails, -⟩ := preprocess_exact library "src" houseRules chapter distinct
  have taken : (preprocess library "lib" houseRules chapter).result =
      .ok ⟨⟨[("LIMIT", "5"), ("GREETING", "Hi"), ("DEBUG", "true")], by decide⟩,
        ["; shared\n"]⟩ := rfl
  obtain ⟨-, unique, -, values⟩ := succeeds _ taken
  refine ⟨distinct, ⟨_, taken, rfl, rfl, unique, ?_, ?_⟩, ?_, ?_⟩
  · exact (values "GREETING" "Hi" (by decide)).1
  · exact (values "DEBUG" "true" (by decide)).1
  · exact moved [("DEBUG", some "false"), ("LIMIT", none)] (chapter.drop 2) rfl
  · exact fails.mpr ⟨"\"shared.psc\"", .notFound, by decide, rfl⟩

end PapyrusWriter
