import PapyrusWriter.Proofs.Json.Reads
/-!
# Texts of a value

`Spells json cs` says that `cs` is a text of the value: any white space may stand between the
tokens, and a character of a string may be spelled by any of its escapes. The written form is one of
these texts (`spells_chars`), and reading any of them gives the value back
(`Reads.value_of_spells`), as long as it is no deeper than the reader may go.

There are no numbers here: a syntax tree has none.
-/

namespace PapyrusWriter.Json

set_option autoImplicit false

open Reader (hexValue? shortEscape? isLeading isTrailing pairChar)

/-! ## Depth -/

mutual

/-- How many lists and objects stand inside one another. -/
def depth : Json → Nat
  | .arr items => itemsDepth items + 1
  | .obj members => membersDepth members + 1
  | _ => 0

def itemsDepth : List Json → Nat
  | [] => 0
  | item :: rest => max item.depth (itemsDepth rest)

def membersDepth : List (String × Json) → Nat
  | [] => 0
  | (_, item) :: rest => max item.depth (membersDepth rest)

end

/-! ## Strings -/

/-- Four hexadecimal digits of a number. -/
inductive SpellsUnit : Nat → List Char → Prop where
  | digits {a b d e : Char} {w x y z : Nat} (first : hexValue? a = some w)
      (second : hexValue? b = some x) (third : hexValue? d = some y)
      (fourth : hexValue? e = some z) :
      SpellsUnit (((w * 16 + x) * 16 + y) * 16 + z) [a, b, d, e]

/-- The ways to spell a character inside a string. -/
inductive SpellsChar : Char → List Char → Prop where
  | plain {c : Char} (quote : c ≠ '"') (backslash : c ≠ '\\') (printable : 32 ≤ c.toNat) :
      SpellsChar c [c]
  | short {c letter : Char} (escape : shortEscape? letter = some c) : SpellsChar c ['\\', letter]
  | unit {n : Nat} {cs : List Char} (spelled : SpellsUnit n cs) (leading : isLeading n = false)
      (trailing : isTrailing n = false) : SpellsChar (Char.ofNat n) ('\\' :: 'u' :: cs)
  | pair {m n : Nat} {cs cs' : List Char} (first : SpellsUnit m cs) (second : SpellsUnit n cs')
      (leading : isLeading m = true) (trailing : isTrailing n = true) :
      SpellsChar (pairChar m n) ('\\' :: 'u' :: (cs ++ '\\' :: 'u' :: cs'))

/-- A string between its quotes. -/
inductive SpellsChars : List Char → List Char → Prop where
  | nil : SpellsChars [] []
  | cons {c : Char} {text cs cs' : List Char} (first : SpellsChar c cs)
      (rest : SpellsChars text cs') : SpellsChars (c :: text) (cs ++ cs')

/-! ## Values -/

mutual

/-- The texts of a value. -/
inductive Spells : Json → List Char → Prop where
  | null : Spells .null "null".toList
  | true : Spells (.bool true) "true".toList
  | false : Spells (.bool false) "false".toList
  | str {text : String} {cs : List Char} (spelled : SpellsChars text.toList cs) :
      Spells (.str text) ('"' :: (cs ++ ['"']))
  | arr {items : List Json} {cs : List Char} (spelled : SpellsItems true items cs) :
      Spells (.arr items) ('[' :: (cs ++ [']']))
  | obj {members : List (String × Json)} {cs : List Char}
      (spelled : SpellsMembers true members cs) : Spells (.obj members) ('{' :: (cs ++ ['}']))

/-- The texts of items up to the end of their list; a comma stands before all but the first. -/
inductive SpellsItems : Bool → List Json → List Char → Prop where
  | nil {first : Bool} {blanks : List Char} (blank : Blank blanks) : SpellsItems first [] blanks
  | first {item : Json} {items : List Json} {blanks cs rest : List Char} (blank : Blank blanks)
      (spelled : Spells item cs) (others : SpellsItems false items rest) :
      SpellsItems true (item :: items) (blanks ++ (cs ++ rest))
  | next {item : Json} {items : List Json} {before blanks cs rest : List Char}
      (comma : Blank before) (blank : Blank blanks) (spelled : Spells item cs)
      (others : SpellsItems false items rest) :
      SpellsItems false (item :: items) (before ++ ',' :: (blanks ++ (cs ++ rest)))

/-- The texts of a key with its value. -/
inductive SpellsMember : String × Json → List Char → Prop where
  | pair {key : String} {item : Json} {name before after cs : List Char}
      (named : SpellsChars key.toList name) (colon : Blank before) (blank : Blank after)
      (spelled : Spells item cs) :
      SpellsMember (key, item) ('"' :: (name ++ '"' :: (before ++ ':' :: (after ++ cs))))

/-- The texts of members up to the end of their object. -/
inductive SpellsMembers : Bool → List (String × Json) → List Char → Prop where
  | nil {first : Bool} {blanks : List Char} (blank : Blank blanks) : SpellsMembers first [] blanks
  | first {member : String × Json} {members : List (String × Json)} {blanks cs rest : List Char}
      (blank : Blank blanks) (spelled : SpellsMember member cs)
      (others : SpellsMembers false members rest) :
      SpellsMembers true (member :: members) (blanks ++ (cs ++ rest))
  | next {member : String × Json} {members : List (String × Json)}
      {before blanks cs rest : List Char} (comma : Blank before) (blank : Blank blanks)
      (spelled : SpellsMember member cs) (others : SpellsMembers false members rest) :
      SpellsMembers false (member :: members) (before ++ ',' :: (blanks ++ (cs ++ rest)))

end

/-! ## The written form -/

mutual

/-- No number stands anywhere in the value. -/
def isNumberFree : Json → Bool
  | .number _ => false
  | .arr items => itemsNumberFree items
  | .obj members => membersNumberFree members
  | _ => true

def itemsNumberFree : List Json → Bool
  | [] => true
  | item :: rest => item.isNumberFree && itemsNumberFree rest

def membersNumberFree : List (String × Json) → Bool
  | [] => true
  | (_, item) :: rest => item.isNumberFree && membersNumberFree rest

end

theorem hexValue?_hexDigit : ∀ d < 16, hexValue? (hexDigit d) = some d := by
  decide

/-- A control character is spelled by its number. -/
theorem spellsChar_control {c : Char} (control : c.toNat < 32) :
    SpellsChar c ['\\', 'u', '0', '0', hexDigit (c.toNat / 16), hexDigit (c.toNat % 16)] := by
  have unit : SpellsUnit (((0 * 16 + 0) * 16 + c.toNat / 16) * 16 + c.toNat % 16)
      ['0', '0', hexDigit (c.toNat / 16), hexDigit (c.toNat % 16)] :=
    .digits rfl rfl (hexValue?_hexDigit _ (by omega)) (hexValue?_hexDigit _ (by omega))
  have value : ((0 * 16 + 0) * 16 + c.toNat / 16) * 16 + c.toNat % 16 = c.toNat := by omega
  rw [value] at unit
  have spelled := SpellsChar.unit unit (by simp [isLeading]; omega) (by simp [isTrailing]; omega)
  rwa [Char.ofNat_toNat] at spelled

theorem spellsChar_escapeChar (c : Char) : SpellsChar c (escapeChar c) := by
  unfold escapeChar
  split
  next quote =>
      subst quote
      exact .short rfl
  next quote =>
  split
  next backslash =>
      subst backslash
      exact .short rfl
  next backslash =>
  split
  next value => exact Char.ofNat_toNat c ▸ value ▸ .short rfl
  split
  next value => exact Char.ofNat_toNat c ▸ value ▸ .short rfl
  split
  next feed => exact feed ▸ .short rfl
  split
  next back => exact back ▸ .short rfl
  split
  next tab => exact tab ▸ .short rfl
  split
  next control => exact spellsChar_control control
  next printable => exact .plain quote backslash (Nat.not_lt.mp printable)

theorem spellsChars_flatMap : ∀ text : List Char, SpellsChars text (text.flatMap escapeChar)
  | [] => .nil
  | c :: text => .cons (spellsChar_escapeChar c) (spellsChars_flatMap text)

theorem spellsItems_comma {item : Json} {items : List Json} {cs : List Char}
    (spelled : SpellsItems true (item :: items) cs) : SpellsItems false (item :: items) (',' :: cs) := by
  cases spelled with
  | first blank spelled others => exact .next Blank.nil blank spelled others

theorem spellsMembers_comma {member : String × Json} {members : List (String × Json)}
    {cs : List Char} (spelled : SpellsMembers true (member :: members) cs) :
    SpellsMembers false (member :: members) (',' :: cs) := by
  cases spelled with
  | first blank spelled others => exact .next Blank.nil blank spelled others

theorem spellsMember_quoteChars (key : String) {item : Json} {cs : List Char}
    (spelled : Spells item cs) : SpellsMember (key, item) (quoteChars key ++ ':' :: cs) := by
  have member := SpellsMember.pair (spellsChars_flatMap key.toList) Blank.nil Blank.nil spelled
  simpa [quoteChars] using member

mutual

/-- The written form is a text of the value. -/
theorem spells_chars : ∀ json : Json, json.isNumberFree = true → Spells json json.chars
  | .null, _ => .null
  | .bool true, _ => .true
  | .bool false, _ => .false
  | .str text, _ => .str (spellsChars_flatMap text.toList)
  | .arr items, free => .arr (spellsItems_itemChars items free)
  | .obj members, free => .obj (spellsMembers_memberChars members free)

theorem spellsItems_itemChars :
    ∀ items : List Json, itemsNumberFree items = true → SpellsItems true items (itemChars items)
  | [], _ => .nil Blank.nil
  | [item], free => by
      have written := spells_chars item (Bool.and_eq_true_iff.mp free).1
      simpa [itemChars] using SpellsItems.first Blank.nil written (.nil Blank.nil)
  | item :: next :: rest, free => by
      obtain ⟨free, frees⟩ := Bool.and_eq_true_iff.mp free
      exact .first Blank.nil (spells_chars item free)
        (spellsItems_comma (spellsItems_itemChars (next :: rest) frees))

theorem spellsMembers_memberChars : ∀ members : List (String × Json),
    membersNumberFree members = true → SpellsMembers true members (memberChars members)
  | [], _ => .nil Blank.nil
  | [(key, item)], free => by
      have written := spellsMember_quoteChars key
        (spells_chars item (Bool.and_eq_true_iff.mp free).1)
      simpa [memberChars] using SpellsMembers.first Blank.nil written (.nil Blank.nil)
  | (key, item) :: next :: rest, free => by
      obtain ⟨free, frees⟩ := Bool.and_eq_true_iff.mp free
      have written := spellsMember_quoteChars key (spells_chars item free)
      have others := spellsMembers_comma (spellsMembers_memberChars (next :: rest) frees)
      simpa [memberChars] using SpellsMembers.first Blank.nil written others

end

/-! ## Reading strings -/

namespace Reads

open Reader

theorem hexUnit {n : Nat} {cs : List Char} (spelled : SpellsUnit n cs) (s : List Char) :
    Reads Reader.hexUnit (cs ++ s) n s := by
  obtain ⟨first, second, third, fourth⟩ := spelled
  intro c start
  refine ⟨c.advance.advance.advance.advance, ?_, ?_⟩
  · simp only [Reader.hexUnit, start, List.cons_append, first, second, third, fourth]
  · simp [Cursor.rest_advance, start]

theorem stringChar (ch : Char) (s : List Char) : Reads (Reader.stringChar ch) (ch :: s) () s := by
  refine (peek (ch :: s)).bind ?_
  simpa using advance ch s

theorem unicodeEscape_unit {n : Nat} {cs : List Char} (spelled : SpellsUnit n cs)
    (leading : isLeading n = false) (trailing : isTrailing n = false) (s : List Char) :
    Reads unicodeEscape (cs ++ s) (Char.ofNat n) s := by
  refine (hexUnit spelled s).bind ?_
  simpa [leading, trailing] using pure (Char.ofNat n) s

/-- No code unit is both a leading and a trailing surrogate. -/
theorem not_isTrailing_of_isLeading {n : Nat} (leading : isLeading n = true) :
    isTrailing n = false := by
  simp only [isLeading, isTrailing, Bool.and_eq_true, decide_eq_true_eq, Bool.and_eq_false_iff,
    decide_eq_false_iff_not] at leading ⊢
  omega

theorem unicodeEscape_pair {m n : Nat} {cs cs' : List Char} (first : SpellsUnit m cs)
    (second : SpellsUnit n cs') (leading : isLeading m = true) (trailing : isTrailing n = true)
    (s : List Char) :
    Reads unicodeEscape (cs ++ '\\' :: 'u' :: (cs' ++ s)) (pairChar m n) s := by
  refine (hexUnit first _).bind ?_
  have next : Reads (do
      Reader.stringChar '\\'
      Reader.stringChar 'u'
      let second ← Reader.hexUnit
      if isTrailing second then Pure.pure (pairChar m second) else failHere .loneSurrogate)
      ('\\' :: 'u' :: (cs' ++ s)) (pairChar m n) s := by
    refine (stringChar _ _).bind ((stringChar _ _).bind ((hexUnit second s).bind ?_))
    simpa [trailing] using pure (pairChar m n) s
  simpa [leading, not_isTrailing_of_isLeading leading] using next

theorem escape_short {letter c : Char} (escape : shortEscape? letter = some c) (s : List Char) :
    Reads Reader.escape (letter :: s) c s := by
  refine (peek (letter :: s)).bind ?_
  dsimp only [List.head?_cons]
  split
  · simp_all
  · simp_all [shortEscape?]
  · rename_i found
    obtain rfl := Option.some.inj found
    rw [escape]
    exact (advance letter s).bind (pure c s)

/-- One spelled character is one step of the string reader. -/
theorem stringRest_char {c : Char} {cs : List Char} (spelled : SpellsChar c cs) {fuel : Nat}
    {seen rest s : List Char} {text : String}
    (others : Reads (stringRest fuel (c :: seen)) rest text s) :
    Reads (stringRest (fuel + 1) seen) (cs ++ rest) text s := by
  cases spelled with
  | plain quote backslash printable =>
      refine (peek (c :: rest)).bind ?_
      dsimp only [List.head?_cons]
      split
      · simp_all
      · simp_all
      · simp_all
      · rename_i found
        obtain rfl := Option.some.inj found
        rw [if_neg (by omega)]
        exact (advance c rest).bind others
  | short escape =>
      refine (peek _).bind ((advance _ _).bind ?_)
      exact (escape_short escape rest).bind others
  | unit spelled leading trailing =>
      refine (peek _).bind ((advance _ _).bind (bind ?_ others))
      exact (peek _).bind ((advance _ _).bind (unicodeEscape_unit spelled leading trailing rest))
  | pair first second leading trailing =>
      refine (peek _).bind ((advance _ _).bind (bind ?_ others))
      refine (peek _).bind ((advance _ _).bind ?_)
      simpa using unicodeEscape_pair first second leading trailing rest

theorem stringRest {text cs : List Char} (spelled : SpellsChars text cs) (s : List Char) :
    ∀ (fuel : Nat) (seen : List Char), text.length < fuel →
      Reads (Reader.stringRest fuel seen) (cs ++ '"' :: s) (String.ofList (seen.reverse ++ text)) s := by
  induction spelled with
  | nil =>
      rintro (_ | fuel) seen enough
      · simp at enough
      · rw [List.append_nil]
        exact (peek _).bind ((advance '"' s).bind (pure (String.ofList seen.reverse) s))
  | cons first rest ih =>
      rintro (_ | fuel) seen enough
      · simp at enough
      · rw [List.append_assoc]
        refine stringRest_char first ?_
        simpa using ih fuel (_ :: seen) (by simpa using enough)

theorem length_pos_of_spellsChar {c : Char} {cs : List Char} (spelled : SpellsChar c cs) :
    0 < cs.length := by
  cases spelled <;> simp

theorem length_le_of_spellsChars {text cs : List Char} (spelled : SpellsChars text cs) :
    text.length ≤ cs.length := by
  induction spelled with
  | nil => exact Nat.le_refl 0
  | cons first rest ih =>
      have taken := length_pos_of_spellsChar first
      simp only [List.length_cons, List.length_append]
      omega

theorem string {text : String} {cs : List Char} (spelled : SpellsChars text.toList cs)
    (s : List Char) : Reads Reader.string (cs ++ '"' :: s) text s := by
  have enough : text.toList.length < (cs ++ '"' :: s).length + 1 := by
    have shorter := length_le_of_spellsChars spelled
    simp only [List.length_append]
    omega
  refine (fuel _).bind ?_
  simpa using stringRest spelled s _ [] enough

/-! ## Reading lists and objects -/

variable {blanks before s : List Char}

theorem nextItem_end (blank : Blank blanks) (first : Bool) (s : List Char) :
    Reads (nextItem first) (blanks ++ ']' :: s) false (']' :: s) :=
  (token blank rfl s).bind (pure false _)

theorem nextItem_first (blank : Blank blanks) {ch : Char} (solid : Cursor.isSpace ch = false)
    (item : ch ≠ ']') (s : List Char) :
    Reads (nextItem true) (blanks ++ ch :: s) true (ch :: s) := by
  refine (token blank solid s).bind ?_
  simpa [item] using pure true (ch :: s)

theorem nextItem_next (comma : Blank before) (blank : Blank blanks) {ch : Char}
    (solid : Cursor.isSpace ch = false) (item : ch ≠ ']') (s : List Char) :
    Reads (nextItem false) (before ++ ',' :: (blanks ++ ch :: s)) true (ch :: s) := by
  refine (token comma rfl _).bind ((advance _ _).bind ((token blank solid s).bind ?_))
  split
  · simp_all
  · simp_all
  · exact pure true (ch :: s)

theorem nextKey_end (blank : Blank blanks) (first : Bool) (s : List Char) :
    Reads (nextKey first) (blanks ++ '}' :: s) false ('}' :: s) :=
  (token blank rfl s).bind (pure false _)

theorem nextKey_first (blank : Blank blanks) (s : List Char) :
    Reads (nextKey true) (blanks ++ '"' :: s) true ('"' :: s) :=
  (token blank rfl s).bind (pure true _)

theorem nextKey_next (comma : Blank before) (blank : Blank blanks) (s : List Char) :
    Reads (nextKey false) (before ++ ',' :: (blanks ++ '"' :: s)) true ('"' :: s) :=
  (token comma rfl _).bind ((advance _ _).bind ((token blank rfl s).bind (pure true _)))

theorem key {name : String} {cs : List Char} (spelled : SpellsChars name.toList cs)
    (s : List Char) : Reads Reader.key ('"' :: (cs ++ '"' :: s)) name s :=
  (advance _ _).bind (string spelled s)

theorem colon (blank : Blank blanks) (s : List Char) :
    Reads Reader.colon (blanks ++ ':' :: s) () s :=
  (token blank rfl s).bind (advance _ s)

theorem listEnd (s : List Char) : Reads Reader.listEnd (']' :: s) () s :=
  (token Blank.nil rfl s).bind (advance _ s)

theorem objectEnd (s : List Char) : Reads Reader.objectEnd ('}' :: s) () s :=
  (token Blank.nil rfl s).bind (advance _ s)

end Reads

/-- A value starts with a character that is neither white space nor the end of a list. -/
theorem exists_head_of_spells {json : Json} {cs : List Char} (spelled : Spells json cs) :
    ∃ ch tail, cs = ch :: tail ∧ Cursor.isSpace ch = false ∧ ch ≠ ']' := by
  cases spelled with
  | null => exact ⟨'n', _, rfl, rfl, by decide⟩
  | true => exact ⟨'t', _, rfl, rfl, by decide⟩
  | false => exact ⟨'f', _, rfl, rfl, by decide⟩
  | str _ => exact ⟨'"', _, rfl, rfl, by decide⟩
  | arr _ => exact ⟨'[', _, rfl, rfl, by decide⟩
  | obj _ => exact ⟨'{', _, rfl, rfl, by decide⟩

namespace Reads

open Reader

/-- A list that goes on: its next item, and what is left of the text after it. -/
theorem nextItem_of_spells {item : Json} {items : List Json} {first : Bool} {cs : List Char}
    (spelled : SpellsItems first (item :: items) cs) (s : List Char) :
    ∃ text rest, Spells item text ∧ SpellsItems false items rest ∧ text.length ≤ cs.length ∧
      rest.length < cs.length ∧ Reads (nextItem first) (cs ++ s) true (text ++ (rest ++ s)) := by
  cases spelled with
  | @first _ _ _ text rest blank spelled others =>
      obtain ⟨ch, tail, rfl, solid, item⟩ := exists_head_of_spells spelled
      refine ⟨_, rest, spelled, others, ?_, ?_, ?_⟩
      · simp only [List.length_append]
        omega
      · simp only [List.length_append, List.length_cons]
        omega
      · simpa using nextItem_first blank solid item (tail ++ (rest ++ s))
  | @next _ _ _ _ text rest comma blank spelled others =>
      obtain ⟨ch, tail, rfl, solid, item⟩ := exists_head_of_spells spelled
      refine ⟨_, rest, spelled, others, ?_, ?_, ?_⟩
      · simp only [List.length_append, List.length_cons]
        omega
      · simp only [List.length_append, List.length_cons]
        omega
      · simpa using nextItem_next comma blank solid item (tail ++ (rest ++ s))

/-- An object that goes on: the parts of its next member, and what is left of the text after it. -/
theorem nextKey_of_spells {key : String} {item : Json} {members : List (String × Json)}
    {first : Bool} {cs : List Char} (spelled : SpellsMembers first ((key, item) :: members) cs)
    (s : List Char) :
    ∃ name before after text rest, SpellsChars key.toList name ∧ Blank before ∧ Blank after ∧
      Spells item text ∧ SpellsMembers false members rest ∧ text.length ≤ cs.length ∧
      rest.length < cs.length ∧ Reads (nextKey first) (cs ++ s) true
        ('"' :: (name ++ '"' :: (before ++ ':' :: (after ++ (text ++ (rest ++ s)))))) := by
  cases spelled with
  | @first _ _ _ _ rest blank spelled others =>
      obtain ⟨named, colon, after, spelled⟩ := spelled
      refine ⟨_, _, _, _, rest, named, colon, after, spelled, others, ?_, ?_, ?_⟩
      · simp only [List.length_append, List.length_cons]
        omega
      · simp only [List.length_append, List.length_cons]
        omega
      · simpa using nextKey_first blank _
  | @next _ _ _ _ _ rest comma blank spelled others =>
      obtain ⟨named, colon, after, spelled⟩ := spelled
      refine ⟨_, _, _, _, rest, named, colon, after, spelled, others, ?_, ?_, ?_⟩
      · simp only [List.length_append, List.length_cons]
        omega
      · simp only [List.length_append, List.length_cons]
        omega
      · simpa using nextKey_next comma blank _

mutual

/-- Two steps for each character are enough: one opens a list, one asks for its next item. -/
theorem valueAux : ∀ (json : Json) {cs blanks : List Char} (_ : Spells json cs) (fuel depth : Nat)
    (s : List Char), 2 * cs.length ≤ fuel → json.depth ≤ depth → Blank blanks →
      Reads (Reader.valueAux fuel depth) (blanks ++ (cs ++ s)) json s
  | .null, _, _, .null, fuel + 1, depth, s, _, _, blank =>
      (token blank rfl _).bind ((advance _ _).bind ((word _ s).bind (pure _ s)))
  | .bool _, _, _, .true, fuel + 1, depth, s, _, _, blank =>
      (token blank rfl _).bind ((advance _ _).bind ((word _ s).bind (pure _ s)))
  | .bool _, _, _, .false, fuel + 1, depth, s, _, _, blank =>
      (token blank rfl _).bind ((advance _ _).bind ((word _ s).bind (pure _ s)))
  | .str text, _, _, .str spelled, fuel + 1, depth, s, _, _, blank => by
      rw [List.cons_append, List.append_assoc]
      exact (token blank rfl _).bind ((advance _ _).bind ((string spelled s).bind (pure _ s)))
  | .arr items, _, _, .arr spelled, fuel + 1, depth + 1, s, enough, shallow, blank => by
      rw [List.cons_append, List.append_assoc]
      simp only [List.length_cons, List.length_append] at enough
      have inside := itemsAux items spelled fuel depth s (by omega) (Nat.le_of_succ_le_succ shallow)
      refine (token blank rfl _).bind ((advance _ _).bind ?_)
      exact inside.bind ((listEnd s).bind (pure _ s))
  | .obj members, _, _, .obj spelled, fuel + 1, depth + 1, s, enough, shallow, blank => by
      rw [List.cons_append, List.append_assoc]
      simp only [List.length_cons, List.length_append] at enough
      have inside := membersAux members spelled fuel depth s (by omega)
        (Nat.le_of_succ_le_succ shallow)
      refine (token blank rfl _).bind ((advance _ _).bind ?_)
      exact inside.bind ((objectEnd s).bind (pure _ s))

theorem itemsAux : ∀ (items : List Json) {first : Bool} {cs : List Char}
    (_ : SpellsItems first items cs) (fuel depth : Nat) (s : List Char), 2 * cs.length + 1 ≤ fuel →
      itemsDepth items ≤ depth →
        Reads (Reader.itemsAux fuel depth first) (cs ++ ']' :: s) items (']' :: s)
  | [], first, _, .nil blank, fuel + 1, depth, s, _, _ =>
      (nextItem_end blank first s).bind (pure [] _)
  | item :: items, first, cs, spelled, fuel + 1, depth, s, enough, shallow => by
      obtain ⟨text, rest, spelled, others, shorter, shorters, asked⟩ :=
        nextItem_of_spells spelled (']' :: s)
      obtain ⟨shallow, shallows⟩ := Nat.max_le.mp shallow
      -- The item takes a character at least, so two steps are left over for this turn.
      have read := valueAux item spelled fuel depth (rest ++ ']' :: s) (by omega) shallow Blank.nil
      have reads := itemsAux items others fuel depth s (by omega) shallows
      exact asked.bind (read.bind (reads.bind (pure _ _)))

theorem membersAux : ∀ (members : List (String × Json)) {first : Bool} {cs : List Char}
    (_ : SpellsMembers first members cs) (fuel depth : Nat) (s : List Char),
      2 * cs.length + 1 ≤ fuel → membersDepth members ≤ depth →
        Reads (Reader.membersAux fuel depth first) (cs ++ '}' :: s) members ('}' :: s)
  | [], first, _, .nil blank, fuel + 1, depth, s, _, _ =>
      (nextKey_end blank first s).bind (pure [] _)
  | (_, item) :: members, first, cs, spelled, fuel + 1, depth, s, enough, shallow => by
      obtain ⟨name, before, after, text, rest, named, blank, blank', spelled, others, shorter,
        shorters, asked⟩ := nextKey_of_spells spelled ('}' :: s)
      obtain ⟨shallow, shallows⟩ := Nat.max_le.mp shallow
      have read := valueAux item spelled fuel depth (rest ++ '}' :: s) (by omega) shallow blank'
      have reads := membersAux members others fuel depth s (by omega) shallows
      refine asked.bind ((key named _).bind ((colon blank _).bind ?_))
      exact read.bind (reads.bind (pure _ _))

end

/-- Reading a text of a value gives the value. -/
theorem value_of_spells {json : Json} {cs blanks : List Char} {depth : Nat}
    (spelled : Spells json cs) (shallow : json.depth ≤ depth) (blank : Blank blanks)
    (s : List Char) : Reads (Reader.value depth) (blanks ++ (cs ++ s)) json s := by
  refine (Reads.fuel _).bind (valueAux json spelled _ depth s ?_ shallow blank)
  simp only [List.length_append]
  omega

end Reads

end PapyrusWriter.Json
