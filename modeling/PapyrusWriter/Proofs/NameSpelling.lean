import PapyrusWriter.Proofs.NamespaceSeparator
import PapyrusWriter.Proofs.Replacement
import PapyrusWriter.Proofs.TreeFormat
/-!
# The generated spelling of a name determines it

Replacing `::` by `:` loses something of most texts: `a::b` and `a:b` become the same, and `:::`
becomes `::`, which would be replaced again. A well-formed identifier has none of these. Its words
are what stands between the single colons of its spelling, and the segments of a dotted name are
what stands between the dots. So a name can be read back from its spelling
(`Identifier.ofSpelling_normalized`, `QualifiedName.ofSpelling_normalized`).
-/

namespace PapyrusWriter

set_option autoImplicit false

namespace Text

theorem collapse_cons {c : Char} (other : c ≠ ':') (cs : List Char) :
    collapse (c :: cs) = c :: collapse cs := by
  rw [collapse]
  intro rest colon
  exact absurd colon other

theorem collapse_append {word : List Char} (colonless : ':' ∉ word) (rest : List Char) :
    collapse (word ++ rest) = word ++ collapse rest := by
  induction word with
  | nil => rfl
  | cons c cs ih =>
      simp only [List.mem_cons, not_or] at colonless
      rw [List.cons_append, collapse_cons (Ne.symm colonless.1), ih colonless.2, List.cons_append]

/-- The pairs of colons between words become single colons. -/
theorem collapse_intercalate {words : List (List Char)}
    (colonless : ∀ word ∈ words, ':' ∉ word) :
    collapse ([':', ':'].intercalate words) = [':'].intercalate words := by
  induction words with
  | nil => rfl
  | cons word rest ih =>
      obtain ⟨here, later⟩ := List.forall_mem_cons.mp colonless
      cases rest with
      | nil =>
          have alone := collapse_append here []
          simpa [collapse] using alone
      | cons next rest =>
          have pair : collapse ([':', ':'] ++ [':', ':'].intercalate (next :: rest)) =
              ':' :: collapse ([':', ':'].intercalate (next :: rest)) := rfl
          rw [List.intercalate_cons_cons, List.intercalate_cons_cons, List.append_assoc,
            collapse_append here, pair, ih later, List.append_assoc, List.singleton_append]

end Text

namespace Identifier

variable {name : Identifier}

/-- The identifier whose words stand between the colons of a text. -/
def ofSpelling (text : String) : Identifier :=
  ⟨String.ofList ([':', ':'].intercalate (splitAtMark ':' text.toList))⟩

theorem IsWord.colonless {word : List Char} (isWord : IsWord word) : ':' ∉ word := by
  obtain ⟨first, rest, rfl, letter, parts⟩ := isWord
  intro colon
  rcases List.mem_cons.mp colon with rfl | later
  · exact colon_not_isLetterOrDigit (.inl letter)
  · exact colon_not_isLetterOrDigit (parts _ later)

/-- The words of an identifier have `::` between them in the source, and `:` in the script. -/
theorem exists_words (formed : name.isWellFormed = true) :
    ∃ words : List (List Char), words ≠ [] ∧ (∀ word ∈ words, IsWord word) ∧
      name.raw.toList = [':', ':'].intercalate words ∧
      name.normalized.toList = [':'].intercalate words := by
  obtain ⟨words, nonempty, all, form⟩ := (isWellFormed_iff name).mp formed
  refine ⟨words, nonempty, all, form, ?_⟩
  have collapsed : name.normalized.toList = Text.collapse name.raw.toList := by
    rw [normalized, Text.toList_replaceAll]
    exact Text.replaceFrom_eq_collapse _
  rw [collapsed, form]
  exact Text.collapse_intercalate fun word among => (all word among).colonless

/-- An identifier is read back from its spelling. -/
theorem ofSpelling_normalized (formed : name.isWellFormed = true) :
    ofSpelling name.normalized = name := by
  obtain ⟨words, nonempty, all, form, spelled⟩ := exists_words formed
  have split : splitAtMark ':' name.normalized.toList = words := by
    rw [spelled]
    exact splitAtMark_intercalate nonempty fun word among => (all word among).colonless
  rw [ofSpelling, split, ← form, String.ofList_toList]

/-- What is spelled already stays as it is. -/
theorem normalized_normalized (formed : name.isWellFormed = true) :
    normalized ⟨name.normalized⟩ = name.normalized := by
  have free := (closed_normalized formed).free
  apply String.toList_injective
  show (Text.replaceAll "::" ":" name.normalized).toList = _
  rw [Text.toList_replaceAll]
  exact Text.replaceFrom_of_absent free

theorem dot_notMem_normalized (formed : name.isWellFormed = true) :
    '.' ∉ name.normalized.toList := by
  intro dot
  rcases char_of_normalized formed '.' dot with part | colon
  · rw [← isPartChar_iff] at part
    revert part
    decide
  · revert colon
    decide

end Identifier

namespace QualifiedName

variable {name : QualifiedName}

/-- The name whose segments are spelled between the dots of a text. -/
def ofSpelling (text : String) : QualifiedName :=
  ⟨(splitAtMark '.' text.toList).map fun piece => .ofSpelling (String.ofList piece)⟩

/-- A dotted name is read back from its spelling. -/
theorem ofSpelling_normalized (segmented : name.segments ≠ [])
    (formed : ∀ segment ∈ name.segments, segment.isWellFormed = true) :
    ofSpelling name.normalized = name := by
  have split : splitAtMark '.' name.normalized.toList =
      name.segments.map fun segment => segment.normalized.toList := by
    rw [normalized, String.toList_intercalate, List.map_map]
    apply splitAtMark_intercalate
    · simpa using segmented
    · intro piece among
      obtain ⟨segment, member, rfl⟩ := List.mem_map.mp among
      exact Identifier.dot_notMem_normalized (formed segment member)
  obtain ⟨segments⟩ := name
  rw [ofSpelling, split, List.map_map]
  refine congrArg _ ((List.map_congr_left fun segment member => ?_).trans (List.map_id segments))
  have readBack := Identifier.ofSpelling_normalized (formed segment member)
  simpa using readBack

/-- The spelling of well-formed names has one colon between words, is its own spelling, and is
different for different names. -/
theorem normalized_lossless :
    (∀ name : Identifier, name.isWellFormed = true →
      (∃ words : List (List Char), words ≠ [] ∧ (∀ word ∈ words, Identifier.IsWord word) ∧
        name.raw.toList = [':', ':'].intercalate words ∧
        name.normalized.toList = [':'].intercalate words) ∧
      Text.SeparatorFree name.normalized ∧
      Identifier.normalized ⟨name.normalized⟩ = name.normalized) ∧
    ∀ first second : QualifiedName, first.segments ≠ [] → second.segments ≠ [] →
      (∀ segment ∈ first.segments, segment.isWellFormed = true) →
      (∀ segment ∈ second.segments, segment.isWellFormed = true) →
      first.normalized = second.normalized → first = second := by
  constructor
  · intro name formed
    have words := Identifier.exists_words formed
    have free := (Identifier.closed_normalized formed).free
    exact ⟨words, free, Identifier.normalized_normalized formed⟩
  · intro first second firstSegmented secondSegmented firstFormed secondFormed same
    calc first = ofSpelling first.normalized :=
          (ofSpelling_normalized firstSegmented firstFormed).symm
      _ = ofSpelling second.normalized := by rw [same]
      _ = second := ofSpelling_normalized secondSegmented secondFormed

/-- A name with a namespace in its first segment, from its text and segment by segment. -/
theorem normalized_lossless_utils :
    Text.SeparatorFree (Identifier.normalized ⟨"MyMod::Utils"⟩) ∧
      ofString "MyMod::Utils.Run" = ⟨[⟨"MyMod::Utils"⟩, ⟨"Run"⟩]⟩ :=
  ⟨(normalized_lossless.1 ⟨"MyMod::Utils"⟩ (by decide)).2.1,
    normalized_lossless.2 _ _ (by decide) (by decide) (by decide) (by decide) (by decide)⟩

end QualifiedName

end PapyrusWriter
