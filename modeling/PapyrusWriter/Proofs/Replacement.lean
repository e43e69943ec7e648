import Mathlib.Data.List.Infix
import PapyrusWriter.Text.Replace
/-!
# Where replacement looks

Replacing a word goes through the text from left to right. At every place the word either starts
there, and is taken as a whole, or it does not, and one character is passed over. The recursion of
`replaceFrom` counts characters instead; `replaceFrom_found` and `replaceFrom_passed` are its two
steps, and `replace_induction` is the induction that goes with them.

From the steps it follows where two parts of a text can be treated apart: in front of a part where
the word starts nowhere (`replaceFrom_append_of_passed`), and around a character that the word does
not have (`replaceFrom_append_cons`).

If the replacing text has no character in common with some other word, then that word occurs in the
outcome only where it occurred before. Two such replacements can be exchanged as long as no
occurrence of one word overlaps an occurrence of the other (`replaceFrom_comm`); a word may well
overlap itself.
-/

namespace PapyrusWriter.Text

set_option autoImplicit false

/-! ## The steps of a replacement -/

section Steps

variable {old new : List Char}

theorem toList_replaceAll (old new text : String) :
    (replaceAll old new text).toList = replaceFrom old.toList new.toList 0 text.toList :=
  String.toList_ofList

theorem replaceFrom_skip (old new : List Char) (skip : Nat) (text : List Char) :
    replaceFrom old new skip text = replaceFrom old new 0 (text.drop skip) := by
  induction text generalizing skip with
  | nil => simp [replaceFrom]
  | cons c cs ih =>
      cases skip with
      | zero => rfl
      | succ skip => rw [replaceFrom, ih, List.drop_succ_cons]

theorem replaceFrom_found (filled : old ≠ []) (rest : List Char) :
    replaceFrom old new 0 (old ++ rest) = new ++ replaceFrom old new 0 rest := by
  obtain ⟨c, cs, rfl⟩ := List.exists_cons_of_ne_nil filled
  have here : (c :: cs).isPrefixOf (c :: (cs ++ rest)) = true :=
    List.isPrefixOf_iff_prefix.mpr (List.prefix_append (c :: cs) rest)
  rw [List.cons_append, replaceFrom, if_pos here, replaceFrom_skip]
  simp

theorem replaceFrom_passed {c : Char} {cs : List Char} (absent : ¬ old <+: c :: cs) :
    replaceFrom old new 0 (c :: cs) = c :: replaceFrom old new 0 cs := by
  rw [replaceFrom, if_neg (mt List.isPrefixOf_iff_prefix.mp absent)]

end Steps

/-- Going through a text from left to right: where one of the words starts, it is taken as a whole,
and elsewhere one character is passed over. -/
@[elab_as_elim]
theorem scan_induction {words : List (List Char)} (filled : ∀ word ∈ words, word ≠ [])
    {motive : List Char → Prop} (nil : motive [])
    (found : ∀ word ∈ words, ∀ rest, motive rest → motive (word ++ rest))
    (passed : ∀ c cs, (∀ word ∈ words, ¬ word <+: c :: cs) → motive cs → motive (c :: cs))
    (text : List Char) : motive text := by
  induction size : text.length using Nat.strong_induction_on generalizing text with
  | _ size ih =>
      cases text with
      | nil => exact nil
      | cons c cs =>
          subst size
          by_cases starts : ∃ word ∈ words, word <+: c :: cs
          · obtain ⟨word, among, rest, split⟩ := starts
            have shorter : rest.length < (c :: cs).length := by
              have positive := List.length_pos_iff.mpr (filled word among)
              rw [← split, List.length_append]
              omega
            exact split ▸ found word among rest (ih rest.length shorter rest rfl)
          · have absent : ∀ word ∈ words, ¬ word <+: c :: cs :=
              fun word among here => starts ⟨word, among, here⟩
            exact passed c cs absent (ih cs.length (by simp) cs rfl)

@[elab_as_elim]
theorem replace_induction {old : List Char} (filled : old ≠ []) {motive : List Char → Prop}
    (nil : motive []) (found : ∀ rest, motive rest → motive (old ++ rest))
    (passed : ∀ c cs, ¬ old <+: c :: cs → motive cs → motive (c :: cs)) (text : List Char) :
    motive text := by
  induction text using scan_induction (List.forall_mem_singleton.mpr filled) with
  | nil => exact nil
  | found word among rest ih =>
      cases List.mem_singleton.mp among
      exact found rest ih
  | passed c cs absent ih => exact passed c cs (absent old (.head _)) ih

/-! ## Parts that are treated apart -/

section Parts

variable {old new : List Char}

/-- In front of the rest of a text nothing happens, if the word starts nowhere there. -/
theorem replaceFrom_append_of_passed {front back : List Char}
    (passed : ∀ part, part ≠ [] → part <:+ front → ¬ old <+: part ++ back) :
    replaceFrom old new 0 (front ++ back) = front ++ replaceFrom old new 0 back := by
  induction front with
  | nil => rfl
  | cons c cs ih =>
      have here := passed (c :: cs) (List.cons_ne_nil c cs) List.suffix_rfl
      rw [List.cons_append] at here
      rw [List.cons_append, replaceFrom_passed here, List.cons_append]
      refine congrArg (c :: ·) (ih fun part filled within => ?_)
      exact passed part filled (within.trans (List.suffix_cons c cs))

theorem replaceFrom_of_absent {text : List Char} (absent : ¬ old <:+: text) :
    replaceFrom old new 0 text = text := by
  have parts : replaceFrom old new 0 (text ++ []) = text ++ replaceFrom old new 0 [] := by
    refine replaceFrom_append_of_passed fun part _ within starts => absent ?_
    rw [List.append_nil] at starts
    exact starts.isInfix.trans within.isInfix
  rw [List.append_nil] at parts
  rw [parts, replaceFrom, List.append_nil]

/-- A word starts with one of its own characters. -/
theorem replaceFrom_append_of_disjoint (filled : old ≠ []) {front : List Char}
    (disjoint : old.Disjoint front) (back : List Char) :
    replaceFrom old new 0 (front ++ back) = front ++ replaceFrom old new 0 back := by
  refine replaceFrom_append_of_passed fun part nonempty within starts => ?_
  obtain ⟨c, cs, rfl⟩ := List.exists_cons_of_ne_nil nonempty
  obtain ⟨d, ds, rfl⟩ := List.exists_cons_of_ne_nil filled
  obtain ⟨rfl, -⟩ := List.cons_prefix_cons.mp starts
  exact disjoint (.head ds) (within.subset (.head cs))

/-- A word without some character ends before it. -/
theorem prefix_of_prefix_append_cons {word front back : List Char} {c : Char} (foreign : c ∉ word)
    (starts : word <+: front ++ c :: back) : word <+: front := by
  rcases List.prefix_or_prefix_of_prefix starts
    (⟨back, by simp⟩ : front ++ [c] <+: front ++ c :: back) with short | long
  · rcases List.prefix_concat_iff.mp short with rfl | within
    · exact absurd (by simp) foreign
    · exact within
  · exact absurd (long.subset (by simp)) foreign

/-- A character that the word does not have is a seam: what stands before it and what stands after
it are treated apart. -/
theorem replaceFrom_append_cons (filled : old ≠ []) {c : Char} (foreign : c ∉ old)
    (front back : List Char) :
    replaceFrom old new 0 (front ++ c :: back) =
      replaceFrom old new 0 front ++ c :: replaceFrom old new 0 back := by
  induction front using replace_induction filled with
  | nil =>
      have absent : ¬ old <+: [] ++ c :: back :=
        fun starts => filled (List.prefix_nil.mp (prefix_of_prefix_append_cons foreign starts))
      exact replaceFrom_passed absent
  | found rest ih =>
      rw [List.append_assoc, replaceFrom_found filled, ih, replaceFrom_found filled,
        List.append_assoc]
  | passed d cs absent ih =>
      have still : ¬ old <+: d :: (cs ++ c :: back) :=
        fun starts => absent (prefix_of_prefix_append_cons foreign starts)
      rw [List.cons_append, replaceFrom_passed still, ih, replaceFrom_passed absent,
        List.cons_append]

/-- Nothing happens in the end of a text that has no character of the word. -/
theorem replaceFrom_append_of_disjoint_right (filled : old ≠ []) {back : List Char}
    (disjoint : old.Disjoint back) (front : List Char) :
    replaceFrom old new 0 (front ++ back) = replaceFrom old new 0 front ++ back := by
  cases back with
  | nil => rw [List.append_nil, List.append_nil]
  | cons c cs =>
      have foreign : c ∉ old := fun within => disjoint within (.head cs)
      have rest : replaceFrom old new 0 (cs ++ []) = cs ++ [] :=
        replaceFrom_append_of_disjoint filled (List.disjoint_of_disjoint_cons_right disjoint) []
      rw [List.append_nil] at rest
      rw [replaceFrom_append_cons filled foreign, rest]

theorem replaceFrom_intercalate (filled : old ≠ []) {c : Char} (foreign : c ∉ old)
    (pieces : List (List Char)) :
    replaceFrom old new 0 ([c].intercalate pieces) =
      [c].intercalate (pieces.map (replaceFrom old new 0)) := by
  induction pieces with
  | nil => rfl
  | cons piece rest ih =>
      cases rest with
      | nil => simp
      | cons next rest =>
          rw [List.intercalate_cons_cons, List.append_assoc, List.singleton_append,
            replaceFrom_append_cons filled foreign, ih]
          simp [List.intercalate_cons_cons]

/-- The same seam in a text. -/
theorem replaceAll_seam {old : String} (named : old ≠ "") {c : Char} (foreign : c ∉ old.toList)
    (new front back : String) :
    replaceAll old new (front ++ String.singleton c ++ back) =
      replaceAll old new front ++ String.singleton c ++ replaceAll old new back := by
  have filled : old.toList ≠ [] := mt String.toList_eq_nil_iff.mp named
  apply String.toList_injective
  simp only [toList_replaceAll, String.toList_append, String.toList_singleton, List.append_assoc,
    List.singleton_append, replaceFrom_append_cons filled foreign]

end Parts

/-! ## Replacing by foreign text -/

section Foreign

variable {old new word : List Char}

/-- The start of an outcome that has nothing of the new text was there before. -/
theorem prefix_of_prefix_replaceFrom (filled : old ≠ []) (given : new ≠ [])
    (disjoint : word.Disjoint new) {text : List Char}
    (starts : word <+: replaceFrom old new 0 text) : word <+: text := by
  induction text using replace_induction filled generalizing word with
  | nil => exact starts
  | found rest ih =>
      rw [replaceFrom_found filled] at starts
      obtain ⟨c, cs, rfl⟩ := List.exists_cons_of_ne_nil given
      rcases List.prefix_cons_iff.mp starts with rfl | ⟨ds, rfl, -⟩
      · exact List.nil_prefix
      · exact absurd (.head cs) (disjoint (.head ds))
  | passed c cs absent ih =>
      rw [replaceFrom_passed absent] at starts
      rcases List.prefix_cons_iff.mp starts with rfl | ⟨ds, rfl, later⟩
      · exact List.nil_prefix
      · have others : ds.Disjoint new := List.disjoint_of_disjoint_cons_left disjoint
        exact List.cons_prefix_cons.mpr ⟨rfl, ih others later⟩

theorem infix_of_infix_append {front back : List Char} (nonempty : word ≠ [])
    (disjoint : word.Disjoint front) (within : word <:+: front ++ back) : word <:+: back := by
  induction front with
  | nil => exact within
  | cons c cs ih =>
      rcases List.infix_cons_iff.mp within with starts | later
      · obtain ⟨d, ds, rfl⟩ := List.exists_cons_of_ne_nil nonempty
        obtain ⟨rfl, -⟩ := List.cons_prefix_cons.mp starts
        exact absurd (.head cs) (disjoint (.head ds))
      · exact ih (List.disjoint_of_disjoint_cons_right disjoint) later

/-- No other word appears that was not there before. -/
theorem infix_of_infix_replaceFrom (filled : old ≠ []) (given : new ≠ []) (nonempty : word ≠ [])
    (disjoint : word.Disjoint new) {text : List Char}
    (within : word <:+: replaceFrom old new 0 text) : word <:+: text := by
  induction text using replace_induction filled with
  | nil => exact within
  | found rest ih =>
      rw [replaceFrom_found filled] at within
      exact (ih (infix_of_infix_append nonempty disjoint within)).trans
        (List.suffix_append old rest).isInfix
  | passed c cs absent ih =>
      rw [replaceFrom_passed absent] at within
      rcases List.infix_cons_iff.mp within with starts | later
      · rw [← replaceFrom_passed absent] at starts
        exact (prefix_of_prefix_replaceFrom filled given disjoint starts).isInfix
      · exact (ih later).trans (List.suffix_cons c cs).isInfix

/-- The word itself is gone. -/
theorem not_infix_replaceFrom (filled : old ≠ []) (given : new ≠ [])
    (disjoint : old.Disjoint new) (text : List Char) : ¬ old <:+: replaceFrom old new 0 text := by
  induction text using replace_induction filled with
  | nil => exact mt List.infix_nil.mp filled
  | found rest ih =>
      rw [replaceFrom_found filled]
      exact fun within => ih (infix_of_infix_append filled disjoint within)
  | passed c cs absent ih =>
      rw [replaceFrom_passed absent]
      intro within
      rcases List.infix_cons_iff.mp within with starts | later
      · rw [← replaceFrom_passed absent] at starts
        exact absent (prefix_of_prefix_replaceFrom filled given disjoint starts)
      · exact ih later

end Foreign

/-! ## Words that do not overlap -/

/-- The first word occurs inside the second one, or it can start before the second one and reach
into it. -/
def Overlaps (first second : List Char) : Prop :=
  first <:+: second ∨ ∃ part, part ≠ [] ∧ part ≠ first ∧ part <:+ first ∧ part <+: second

instance (first second : List Char) : Decidable (Overlaps first second) :=
  decidable_of_iff
    (first <:+: second ∨ ∃ part ∈ first.tails, part ≠ [] ∧ part ≠ first ∧ part <+: second) <| by
    simp only [Overlaps, List.mem_tails]
    refine or_congr_right (exists_congr fun part => ?_)
    tauto

theorem replaceFrom_append_of_not_overlaps {old new word : List Char} (inside : ¬ Overlaps old word)
    (across : ¬ Overlaps word old) (rest : List Char) :
    replaceFrom old new 0 (word ++ rest) = word ++ replaceFrom old new 0 rest := by
  refine replaceFrom_append_of_passed fun part nonempty within starts => ?_
  rcases List.prefix_or_prefix_of_prefix starts (List.prefix_append part rest) with short | long
  · exact inside (.inl (short.isInfix.trans within.isInfix))
  · by_cases whole : part = word
    · exact across (.inl (whole ▸ long.isInfix))
    · exact across (.inr ⟨part, nonempty, whole, within, long⟩)

/-- What replaces a word has characters, and none of the words' own. -/
structure Foreign (new : List Char) (words : List (List Char)) : Prop where
  given : new ≠ []
  disjoint : ∀ word ∈ words, word.Disjoint new

/-- Words that do not overlap can be replaced in either order. -/
theorem replaceFrom_comm {first second one two : List Char}
    (filled : ∀ word ∈ [first, second], word ≠ []) (ones : Foreign one [first, second])
    (twos : Foreign two [first, second]) (before : ¬ Overlaps first second)
    (after : ¬ Overlaps second first) (text : List Char) :
    replaceFrom second two 0 (replaceFrom first one 0 text) =
      replaceFrom first one 0 (replaceFrom second two 0 text) := by
  have firsts : first ≠ [] := filled first (by simp)
  have seconds : second ≠ [] := filled second (by simp)
  induction text using scan_induction filled with
  | nil => rfl
  | found word among rest ih =>
      rcases List.mem_pair.mp among with rfl | rfl
      · rw [replaceFrom_found firsts, replaceFrom_append_of_not_overlaps after before,
          replaceFrom_found firsts,
          replaceFrom_append_of_disjoint seconds (ones.disjoint second (by simp)), ih]
      · rw [replaceFrom_append_of_not_overlaps before after, replaceFrom_found seconds,
          replaceFrom_found seconds,
          replaceFrom_append_of_disjoint firsts (twos.disjoint first (by simp)), ih]
  | passed c cs absent ih =>
      -- Neither word can have come to start here through the replacements behind.
      have passedFirst : ¬ first <+: c :: cs := absent first (by simp)
      have passedSecond : ¬ second <+: c :: cs := absent second (by simp)
      have stillSecond : ¬ second <+: c :: replaceFrom first one 0 cs := by
        rw [← replaceFrom_passed passedFirst]
        exact fun starts => passedSecond
          (prefix_of_prefix_replaceFrom firsts ones.given (ones.disjoint second (by simp)) starts)
      have stillFirst : ¬ first <+: c :: replaceFrom second two 0 cs := by
        rw [← replaceFrom_passed passedSecond]
        exact fun starts => passedFirst
          (prefix_of_prefix_replaceFrom seconds twos.given (twos.disjoint first (by simp)) starts)
      rw [replaceFrom_passed passedFirst, replaceFrom_passed stillSecond,
        replaceFrom_passed passedSecond, replaceFrom_passed stillFirst, ih]

end PapyrusWriter.Text
