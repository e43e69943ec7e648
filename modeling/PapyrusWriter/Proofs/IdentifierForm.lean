import Mathlib.Data.List.Basic
import PapyrusWriter.Text.Blank
import PapyrusWriter.Tree.Identifiers
/-!
# The form of an identifier

An identifier is well formed when it is one or more words with `::` between them, where a word is an
ASCII letter or an underscore, followed by any number of these and of ASCII digits (`WellFormed`).
The check `isWellFormed` decides exactly this, reading the text once from left to right
(`isWellFormed_iff`).
-/

namespace PapyrusWriter

set_option autoImplicit false

namespace Identifier

/-! ## Words -/

/-- `A` to `Z`, `a` to `z`, and the underscore. -/
def IsLetter (c : Char) : Prop := ('A' ≤ c ∧ c ≤ 'Z') ∨ ('a' ≤ c ∧ c ≤ 'z') ∨ c = '_'

/-- A letter, or `0` to `9`. -/
def IsLetterOrDigit (c : Char) : Prop := IsLetter c ∨ ('0' ≤ c ∧ c ≤ '9')

/-- A letter, and then letters and digits. -/
def IsWord (cs : List Char) : Prop :=
  ∃ first rest, cs = first :: rest ∧ IsLetter first ∧ ∀ c ∈ rest, IsLetterOrDigit c

/-- One or more words, with `::` between them. -/
def WellFormed (name : Identifier) : Prop :=
  ∃ words : List (List Char), words ≠ [] ∧ (∀ word ∈ words, IsWord word) ∧
    name.raw.toList = [':', ':'].intercalate words

theorem isStartChar_iff (c : Char) : isStartChar c = true ↔ IsLetter c := by
  delta isStartChar Char.isAlpha Char.isUpper Char.isLower
  simp [IsLetter, Char.le_def, or_assoc]

theorem isPartChar_iff (c : Char) : isPartChar c = true ↔ IsLetterOrDigit c := by
  delta isPartChar Char.isAlphanum Char.isAlpha Char.isUpper Char.isLower Char.isDigit
  simp only [IsLetterOrDigit, IsLetter, Char.le_def, Bool.or_eq_true, Bool.and_eq_true,
    decide_eq_true_iff, ge_iff_le]
  tauto

theorem colon_not_isLetterOrDigit : ¬ IsLetterOrDigit ':' := by
  rw [← isPartChar_iff]
  decide

/-! ## The check -/

/-- The first piece can be taken apart from the front. -/
theorem intercalate_cons_cons_head (mark piece : List Char) (c : Char)
    (pieces : List (List Char)) :
    mark.intercalate ((c :: piece) :: pieces) = c :: mark.intercalate (piece :: pieces) := by
  cases pieces with
  | nil => simp
  | cons next rest => simp [List.intercalate_cons_cons]

/-- What the check accepts inside a word: the rest of the word, and words after it. -/
def Continues (cs : List Char) : Prop :=
  ∃ rest words, (∀ c ∈ rest, IsLetterOrDigit c) ∧ (∀ word ∈ words, IsWord word) ∧
    cs = [':', ':'].intercalate (rest :: words)

/-- What the check accepts where a word has to start. -/
def Starts (cs : List Char) : Prop :=
  ∃ word words, IsWord word ∧ (∀ word ∈ words, IsWord word) ∧
    cs = [':', ':'].intercalate (word :: words)

theorem continues_of_starts {cs : List Char} (starts : Starts cs) :
    Continues (':' :: ':' :: cs) := by
  obtain ⟨word, words, first, others, rfl⟩ := starts
  refine ⟨[], word :: words, nofun, ?_, ?_⟩
  · exact List.forall_mem_cons.mpr ⟨first, others⟩
  · simp [List.intercalate_cons_cons]

theorem continues_cons {c : Char} {cs : List Char} (part : IsLetterOrDigit c)
    (continues : Continues cs) : Continues (c :: cs) := by
  obtain ⟨rest, words, parts, others, rfl⟩ := continues
  refine ⟨c :: rest, words, List.forall_mem_cons.mpr ⟨part, parts⟩, others, ?_⟩
  rw [intercalate_cons_cons_head]

theorem starts_cons {c : Char} {cs : List Char} (letter : IsLetter c)
    (continues : Continues cs) : Starts (c :: cs) := by
  obtain ⟨rest, words, parts, others, rfl⟩ := continues
  refine ⟨c :: rest, words, ⟨c, rest, rfl, letter, parts⟩, others, ?_⟩
  rw [intercalate_cons_cons_head]

/-- What is accepted has the form. -/
theorem form_of_wellFormedFrom (start : Bool) (cs : List Char)
    (accepted : wellFormedFrom start cs = true) :
    if start then Starts cs else Continues cs := by
  fun_induction wellFormedFrom start cs with
  | case1 start =>
      cases start with
      | true => cases accepted
      | false => exact ⟨[], [], nofun, nofun, rfl⟩
  | case2 c cs ih =>
      rw [Bool.and_eq_true, isStartChar_iff] at accepted
      exact starts_cons accepted.1 (ih accepted.2)
  | case3 cs ih => exact continues_of_starts (ih accepted)
  | case4 c cs _ ih =>
      rw [Bool.and_eq_true, isPartChar_iff] at accepted
      exact continues_cons accepted.1 (ih accepted.2)

/-- A letter or digit is read by itself: it is no colon. -/
theorem wellFormedFrom_part {c : Char} (cs : List Char) (part : IsLetterOrDigit c) :
    wellFormedFrom false (c :: cs) = wellFormedFrom false cs := by
  rw [wellFormedFrom]
  · rw [(isPartChar_iff c).mpr part, Bool.true_and]
  · rintro rest rfl
    exact absurd part colon_not_isLetterOrDigit

/-- The form is accepted. -/
theorem wellFormedFrom_intercalate (words : List (List Char)) (others : ∀ word ∈ words, IsWord word)
    (rest : List Char) (parts : ∀ c ∈ rest, IsLetterOrDigit c) :
    wellFormedFrom false ([':', ':'].intercalate (rest :: words)) = true := by
  induction words generalizing rest with
  | nil =>
      rw [List.intercalate_singleton]
      induction rest with
      | nil => rfl
      | cons c rest ih =>
          rw [List.forall_mem_cons] at parts
          rw [wellFormedFrom_part _ parts.1, ih parts.2]
  | cons word words wordsIh =>
      rw [List.forall_mem_cons] at others
      obtain ⟨⟨first, tail, rfl, letter, tailParts⟩, others⟩ := others
      induction rest with
      | nil =>
          -- The word after the colons starts with a letter and goes on like the first piece.
          show wellFormedFrom true ([':', ':'].intercalate ((first :: tail) :: words)) = true
          rw [intercalate_cons_cons_head, wellFormedFrom, (isStartChar_iff first).mpr letter,
            Bool.true_and]
          exact wordsIh others tail tailParts
      | cons c rest ih =>
          rw [List.forall_mem_cons] at parts
          rw [intercalate_cons_cons_head, wellFormedFrom_part _ parts.1]
          exact ih parts.2

/-- The check accepts exactly the well-formed identifiers. -/
theorem isWellFormed_iff (name : Identifier) : name.isWellFormed = true ↔ name.WellFormed := by
  constructor
  · intro accepted
    obtain ⟨word, words, first, others, form⟩ := form_of_wellFormedFrom true _ accepted
    exact ⟨word :: words, nofun, List.forall_mem_cons.mpr ⟨first, others⟩, form⟩
  · rintro ⟨words, some, all, form⟩
    rw [isWellFormed, form]
    obtain ⟨word, words, rfl⟩ := List.exists_cons_of_ne_nil some
    rw [List.forall_mem_cons] at all
    obtain ⟨⟨first, rest, rfl, letter, parts⟩, others⟩ := all
    rw [intercalate_cons_cons_head, wellFormedFrom, (isStartChar_iff first).mpr letter,
      Bool.true_and]
    exact wellFormedFrom_intercalate words others rest parts

/-! ## Characters of an identifier -/

theorem char_of_wellFormedFrom (start : Bool) (cs : List Char)
    (accepted : wellFormedFrom start cs = true) : ∀ c ∈ cs, IsLetterOrDigit c ∨ c = ':' := by
  fun_induction wellFormedFrom start cs with
  | case1 start => nofun
  | case2 c cs ih =>
      rw [Bool.and_eq_true, isStartChar_iff] at accepted
      exact List.forall_mem_cons.mpr ⟨.inl (.inl accepted.1), ih accepted.2⟩
  | case3 cs ih =>
      exact List.forall_mem_cons.mpr ⟨.inr rfl, List.forall_mem_cons.mpr ⟨.inr rfl, ih accepted⟩⟩
  | case4 c cs _ ih =>
      rw [Bool.and_eq_true, isPartChar_iff] at accepted
      exact List.forall_mem_cons.mpr ⟨.inl accepted.1, ih accepted.2⟩

theorem mem_replaceFrom {old new : List Char} {c : Char} (skip : Nat) (cs : List Char)
    (member : c ∈ Text.replaceFrom old new skip cs) : c ∈ new ∨ c ∈ cs := by
  fun_induction Text.replaceFrom old new skip cs with
  | case1 => cases member
  | case2 d cs _ ih =>
      rcases List.mem_append.mp member with here | later
      · exact .inl here
      · exact (ih later).imp_right (List.mem_cons_of_mem d)
  | case3 d cs _ ih =>
      rcases List.mem_cons.mp member with rfl | later
      · exact .inr List.mem_cons_self
      · exact (ih later).imp_right (List.mem_cons_of_mem d)
  | case4 skip d cs ih => exact (ih member).imp_right (List.mem_cons_of_mem d)

/-- The generated name has the characters of the name. -/
theorem char_of_normalized {name : Identifier} (formed : name.isWellFormed = true) :
    ∀ c ∈ name.normalized.toList, IsLetterOrDigit c ∨ c = ':' := by
  intro c member
  rw [normalized, Text.replaceAll, String.toList_ofList] at member
  rcases mem_replaceFrom 0 _ member with colon | raw
  · exact .inr (List.mem_singleton.mp colon)
  · exact char_of_wellFormedFrom true _ formed c raw

theorem isBlank_of_isLetterOrDigit {c : Char} (part : IsLetterOrDigit c) :
    Text.isBlank c = false := by
  have bounds : 48 ≤ c.toNat ∧ c.toNat ≤ 122 := by
    rcases part with (upper | lower | rfl) | digit
    · change 65 ≤ c.toNat ∧ c.toNat ≤ 90 at upper
      omega
    · change 97 ≤ c.toNat ∧ c.toNat ≤ 122 at lower
      omega
    · decide
    · change 48 ≤ c.toNat ∧ c.toNat ≤ 57 at digit
      omega
  simp only [Text.isBlank, Bool.or_eq_false_iff, Bool.and_eq_false_iff, decide_eq_false_iff_not,
    beq_eq_false_iff_ne]
  omega

theorem wellFormedFrom_colon (cs : List Char) : wellFormedFrom true (':' :: cs) = false := rfl

/-- A colon stands beside another one, and no third one follows. -/
def ColonPaired (front back : List Char) : Prop :=
  (front.getLast? = some ':' ∨ back.head? = some ':') ∧ ∀ rest, back ≠ ':' :: ':' :: rest

theorem ColonPaired.cons {front back : List Char} (c : Char) (paired : ColonPaired front back) :
    ColonPaired (c :: front) back := by
  refine ⟨?_, paired.2⟩
  rcases paired.1 with before | after
  · left
    rw [List.getLast?_cons, before, Option.getD_some]
  · exact .inr after

theorem colonPaired_of_wellFormedFrom (start : Bool) (cs : List Char)
    (accepted : wellFormedFrom start cs = true) (front back : List Char)
    (split : cs = front ++ ':' :: back) : ColonPaired front back := by
  fun_induction wellFormedFrom start cs generalizing front with
  | case1 start => simp at split
  | case2 c cs ih =>
      rw [Bool.and_eq_true, isStartChar_iff] at accepted
      cases front with
      | nil =>
          obtain ⟨rfl, rfl⟩ := List.cons.inj split
          exact absurd (.inl accepted.1) colon_not_isLetterOrDigit
      | cons d front =>
          rw [List.cons_append, List.cons.injEq] at split
          rw [← split.1]
          exact (ih accepted.2 front split.2).cons c
  | case3 cs ih =>
      have no_third : ∀ rest, cs ≠ ':' :: rest := by
        rintro rest rfl
        rw [wellFormedFrom_colon] at accepted
        cases accepted
      cases front with
      | nil =>
          obtain ⟨-, rfl⟩ := List.cons.inj split
          refine ⟨.inr rfl, fun rest third => ?_⟩
          exact no_third rest (List.cons.inj third).2
      | cons d front =>
          rw [List.cons_append, List.cons.injEq] at split
          cases front with
          | nil =>
              obtain ⟨-, rfl⟩ := List.cons.inj split.2
              exact ⟨.inl (by rw [← split.1]; rfl), fun rest => no_third _⟩
          | cons e front =>
              rw [List.cons_append, List.cons.injEq] at split
              exact ((ih accepted front split.2.2).cons e).cons d
  | case4 c cs _ ih =>
      rw [Bool.and_eq_true, isPartChar_iff] at accepted
      cases front with
      | nil =>
          obtain ⟨rfl, rfl⟩ := List.cons.inj split
          exact absurd accepted.1 colon_not_isLetterOrDigit
      | cons d front =>
          rw [List.cons_append, List.cons.injEq] at split
          rw [← split.1]
          exact (ih accepted.2 front split.2).cons c

end Identifier

end PapyrusWriter
