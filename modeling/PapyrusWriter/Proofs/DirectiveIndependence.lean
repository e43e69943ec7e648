import Mathlib.Data.List.Nodup
import PapyrusWriter.Directive.Table
import PapyrusWriter.Proofs.Replacement
/-!
# Directives that do not disturb each other

The names of a table are replaced one after the other in the whole text, so in general the order of
the table matters: a value may hold a later name, and replacing one name may destroy a part of
another. Neither can happen in an independent table, where no two names overlap and no value has a
character of a name. There any two entries can be exchanged (`Independent.applyEntry_comm`), hence
the table can be taken in any order; no name is left in the outcome, and a second substitution finds
nothing to do.
-/

namespace PapyrusWriter.DirectiveTable

set_option autoImplicit false

/-- The text with the name of one entry replaced. -/
def applyEntry (text : String) (entry : String × String) : String :=
  if entry.1 = "" then text else Text.replaceAll entry.1 (Text.stripQuotes entry.2) text

theorem replaceEntries_eq_foldl (entries : List (String × String)) (text : String) :
    replaceEntries entries text = entries.foldl applyEntry text := by
  induction entries generalizing text with
  | nil => rfl
  | cons entry rest ih =>
      rw [replaceEntries, List.foldl_cons, applyEntry]
      split <;> exact ih _

theorem toList_applyEntry {entry : String × String} (named : entry.1 ≠ "") (text : String) :
    (applyEntry text entry).toList =
      Text.replaceFrom entry.1.toList (Text.stripQuotes entry.2).toList 0 text.toList := by
  rw [applyEntry, if_neg named, Text.toList_replaceAll]

/-- A name that does not occur is not replaced. -/
theorem foldl_applyEntry_of_absent {entries : List (String × String)} {text : String}
    (absent : ∀ entry ∈ entries, ¬ entry.1.toList <:+: text.toList) :
    entries.foldl applyEntry text = text := by
  induction entries with
  | nil => rfl
  | cons entry rest ih =>
      obtain ⟨here, others⟩ := List.forall_mem_cons.mp absent
      have named : entry.1 ≠ "" := by
        intro empty
        exact here (by simp [empty])
      have same : applyEntry text entry = text := by
        apply String.toList_injective
        rw [toList_applyEntry named, Text.replaceFrom_of_absent here]
      rw [List.foldl_cons, same, ih others]

/-- The names are not empty and no two of them overlap; the values are not empty and have no
character of any name. Values count without their quotes, as they are put into the text. -/
structure Independent (table : DirectiveTable) : Prop where
  named : ∀ name ∈ table.entries.map Prod.fst, name ≠ ""
  apart : ∀ first ∈ table.entries.map Prod.fst, ∀ second ∈ table.entries.map Prod.fst,
    first ≠ second → ¬ Text.Overlaps first.toList second.toList
  valued : ∀ entry ∈ table.entries, Text.stripQuotes entry.2 ≠ ""
  foreign : ∀ entry ∈ table.entries, ∀ name ∈ table.entries.map Prod.fst,
    ∀ c ∈ name.toList, c ∉ (Text.stripQuotes entry.2).toList

namespace Independent

variable {table : DirectiveTable}

theorem filled (independent : table.Independent) {entry : String × String}
    (among : entry ∈ table.entries) : entry.1.toList ≠ [] :=
  mt String.toList_eq_nil_iff.mp (independent.named _ (List.mem_map_of_mem among))

theorem given (independent : table.Independent) {entry : String × String}
    (among : entry ∈ table.entries) : (Text.stripQuotes entry.2).toList ≠ [] :=
  mt String.toList_eq_nil_iff.mp (independent.valued _ among)

theorem disjoint (independent : table.Independent) {entry : String × String}
    (among : entry ∈ table.entries) {name : String} (named : name ∈ table.entries.map Prod.fst) :
    name.toList.Disjoint (Text.stripQuotes entry.2).toList :=
  fun c => independent.foreign entry among name named c

theorem toList_applyEntry (independent : table.Independent) {entry : String × String}
    (among : entry ∈ table.entries) (text : String) :
    (applyEntry text entry).toList =
      Text.replaceFrom entry.1.toList (Text.stripQuotes entry.2).toList 0 text.toList :=
  DirectiveTable.toList_applyEntry (independent.named _ (List.mem_map_of_mem among)) text

/-- Any two entries can be exchanged. -/
theorem applyEntry_comm (independent : table.Independent) {first second : String × String}
    (firsts : first ∈ table.entries) (seconds : second ∈ table.entries) (text : String) :
    applyEntry (applyEntry text first) second = applyEntry (applyEntry text second) first := by
  by_cases same : first.1 = second.1
  · rw [List.inj_on_of_nodup_map table.nodup firsts seconds same]
  · have foreign : ∀ entry ∈ table.entries,
        Text.Foreign (Text.stripQuotes entry.2).toList [first.1.toList, second.1.toList] := by
      intro entry among
      refine ⟨independent.given among, List.forall_mem_cons.mpr
        ⟨?_, List.forall_mem_singleton.mpr ?_⟩⟩
      · exact independent.disjoint among (List.mem_map_of_mem firsts)
      · exact independent.disjoint among (List.mem_map_of_mem seconds)
    have filled : ∀ word ∈ [first.1.toList, second.1.toList], word ≠ [] :=
      List.forall_mem_cons.mpr ⟨independent.filled firsts,
        List.forall_mem_singleton.mpr (independent.filled seconds)⟩
    have apart := independent.apart _ (List.mem_map_of_mem firsts) _ (List.mem_map_of_mem seconds)
    have apart' := independent.apart _ (List.mem_map_of_mem seconds) _ (List.mem_map_of_mem firsts)
    apply String.toList_injective
    simp only [independent.toList_applyEntry firsts, independent.toList_applyEntry seconds]
    exact Text.replaceFrom_comm filled (foreign first firsts) (foreign second seconds)
      (apart same) (apart' (Ne.symm same)) text.toList

/-- Entry by entry, no name appears that was not there before. -/
theorem infix_of_infix_foldl (independent : table.Independent) {name : String}
    (among : name ∈ table.entries.map Prod.fst) {entries : List (String × String)}
    (part : entries ⊆ table.entries) {text : String}
    (within : name.toList <:+: (entries.foldl applyEntry text).toList) :
    name.toList <:+: text.toList := by
  induction entries generalizing text with
  | nil => exact within
  | cons entry rest ih =>
      obtain ⟨here, others⟩ := List.cons_subset.mp part
      have before := ih others within
      rw [independent.toList_applyEntry here] at before
      exact Text.infix_of_infix_replaceFrom (independent.filled here) (independent.given here)
        (mt String.toList_eq_nil_iff.mp (independent.named name among))
        (independent.disjoint here among) before

/-- The entry of a name takes all its occurrences away, and the entries after it bring none back. -/
theorem not_infix_substitute (independent : table.Independent) {name : String}
    (among : name ∈ table.entries.map Prod.fst) (text : String) :
    ¬ name.toList <:+: (table.substitute text).toList := by
  obtain ⟨entry, member, rfl⟩ := List.mem_map.mp among
  obtain ⟨front, back, split⟩ := List.append_of_mem member
  have later : back ⊆ table.entries := by
    rw [split]
    exact fun other there => List.mem_append_right front (.tail entry there)
  rw [substitute, replaceEntries_eq_foldl, split, List.foldl_append, List.foldl_cons]
  intro within
  have left := independent.infix_of_infix_foldl among later within
  rw [independent.toList_applyEntry member] at left
  exact Text.not_infix_replaceFrom (independent.filled member) (independent.given member)
    (independent.disjoint member among) _ left

end Independent

/-- An independent table can be taken in any order. No name is left in the outcome, and substituting
again changes nothing. -/
theorem substitute_of_independent (table : DirectiveTable) (independent : table.Independent) :
    (∀ reordered : DirectiveTable, reordered.entries.Perm table.entries →
      ∀ text, reordered.substitute text = table.substitute text) ∧
    (∀ text, ∀ name ∈ table.entries.map Prod.fst,
      ¬ name.toList <:+: (table.substitute text).toList) ∧
    ∀ text, table.substitute (table.substitute text) = table.substitute text := by
  refine ⟨fun reordered order text => ?_, fun text name among => ?_, fun text => ?_⟩
  · rw [substitute, substitute, replaceEntries_eq_foldl, replaceEntries_eq_foldl]
    refine (order.symm.foldl_eq' (fun first firsts second seconds text => ?_) text).symm
    exact independent.applyEntry_comm firsts seconds text
  · exact independent.not_infix_substitute among text
  · have absent : ∀ entry ∈ table.entries,
        ¬ entry.1.toList <:+: (table.substitute text).toList :=
      fun entry among => independent.not_infix_substitute (List.mem_map_of_mem among) text
    calc table.substitute (table.substitute text)
        = table.entries.foldl applyEntry (table.substitute text) := replaceEntries_eq_foldl _ _
      _ = table.substitute text := foldl_applyEntry_of_absent absent

/-- Two names of which each overlaps itself, but not the other. -/
def beads : DirectiveTable := ⟨[("aa", "1"), ("bcb", "2")], by decide⟩

theorem substitute_beads :
    beads.Independent ∧ [("bcb", "2"), ("aa", "1")].Perm beads.entries ∧
      beads.substitute "aaabcbcbaa" = "1a2cb1" ∧
      (⟨[("bcb", "2"), ("aa", "1")], by decide⟩ : DirectiveTable).substitute "aaabcbcbaa" =
        "1a2cb1" ∧
      ¬ "aa".toList <:+: "1a2cb1".toList ∧
      beads.substitute "1a2cb1" = "1a2cb1" := by
  have unshared : ∀ entry ∈ beads.entries, ∀ name ∈ beads.entries.map Prod.fst,
      name.toList.all (fun c => !(Text.stripQuotes entry.2).toList.contains c) = true := by decide
  have independent : beads.Independent := by
    refine ⟨by decide, by decide, by decide, fun entry among name named c within held => ?_⟩
    have test := List.all_eq_true.mp (unshared entry among name named) c within
    simp [held] at test
  have order : [("bcb", "2"), ("aa", "1")].Perm beads.entries := .swap _ _ _
  have outcome : beads.substitute "aaabcbcbaa" = "1a2cb1" := by decide
  obtain ⟨reorder, gone, again⟩ := substitute_of_independent beads independent
  refine ⟨independent, order, outcome, ?_, ?_, ?_⟩
  · rw [reorder ⟨_, by decide⟩ order, outcome]
  · exact outcome ▸ gone "aaabcbcbaa" "aa" (by decide)
  · exact outcome ▸ again "aaabcbcbaa"

end PapyrusWriter.DirectiveTable
