import PapyrusWriter.Proofs.Json.Decoding
/-!
# What decoders read from texts

`Accepts limit decoder json a` says that the decoder reads `a` from every text of the value, if the
value is not deeper than `limit`, the number of levels that may still be opened. A list, a record
and a variant take one level for themselves.
-/

namespace PapyrusWriter.Json

set_option autoImplicit false

/-- The decoder reads `a` from every text of the value, in which no number stands. -/
structure Decoder.Accepts (limit : Nat) {α : Type} (decoder : Decoder α) (json : Json) (a : α) :
    Prop where
  numberFree : json.isNumberFree = true
  text : json.depth ≤ limit → ∀ {cs blanks : List Char} (s : List Char), Spells json cs →
    Blank blanks → Reads (decoder.text limit) (blanks ++ (cs ++ s)) a s

/-! ## Enough steps -/

theorem length_le_of_spellsItems {items : List Json} {first : Bool} {cs : List Char}
    (spelled : SpellsItems first items cs) : items.length ≤ cs.length := by
  induction items generalizing first cs with
  | nil => exact Nat.zero_le _
  | cons item items ih =>
      obtain ⟨text, rest, -, others, -, shorter, -⟩ := Reads.nextItem_of_spells spelled []
      have fewer := ih others
      rw [List.length_cons]
      omega

theorem length_le_of_spellsMembers {members : List (String × Json)} {first : Bool} {cs : List Char}
    (spelled : SpellsMembers first members cs) : members.length ≤ cs.length := by
  induction members generalizing first cs with
  | nil => exact Nat.zero_le _
  | cons member members ih =>
      obtain ⟨_, _, _, _, rest, -, -, -, -, others, -, shorter, -⟩ :=
        Reads.nextKey_of_spells spelled []
      have fewer := ih others
      rw [List.length_cons]
      omega

/-! ## Brackets -/

namespace Reads

variable {α : Type} {depth : Nat} {body : Nat → Reader α} {s t : List Char} {a : α}

theorem inList (inside : Reads (body depth) s a (']' :: t)) :
    Reads (Reader.inList (depth + 1) body) ('[' :: s) a t :=
  (advance '[' s).bind (inside.closing (listEnd t))

theorem inObject (inside : Reads (body depth) s a ('}' :: t)) :
    Reads (Reader.inObject (depth + 1) body) ('{' :: s) a t :=
  (advance '{' s).bind (inside.closing (objectEnd t))

end Reads

/-! ## Records -/

namespace Fields

open Decoder Reader

variable {types : List Type} {fields : Fields types} {limit : Nat} {slots slots' : Slots types}
  {members : List (String × Json)}

theorem Puts.text {key : String} {json : Json}
    (puts : Puts (fun _ => Accepts limit) fields key json slots slots')
    (shallow : json.depth ≤ limit) {before after cs : List Char} (colon : Blank before)
    (blank : Blank after) (spelled : Spells json cs) (s : List Char) :
    Reads (fields.putText key limit slots) (before ++ ':' :: (after ++ (cs ++ s))) (some slots')
      s := by
  induction puts with
  | here accepts =>
      simp only [putText, if_true]
      exact (Reads.colon colon _).bind ((accepts.text shallow s spelled blank).bind (Reads.pure _ s))
  | there other puts ih =>
      simp only [putText, if_neg other]
      exact (ih shallow spelled).bind (Reads.pure _ s)

theorem PutsAll.text (puts : PutsAll (fun _ => Accepts limit) fields members slots slots')
    (s : List Char) : ∀ {first : Bool} {cs : List Char} (fuel : Nat),
      SpellsMembers first members cs → membersDepth members ≤ limit → members.length < fuel →
        Reads (fields.membersText limit fuel first slots) (cs ++ '}' :: s) slots' ('}' :: s) := by
  induction puts with
  | nil =>
      rintro first cs (_ | fuel) spelled shallow enough
      · exact absurd enough (Nat.not_lt_zero _)
      · cases spelled with
        | nil blank => exact (Reads.nextKey_end blank first s).bind (Reads.pure _ _)
  | cons puts others ih =>
      rintro first cs (_ | fuel) spelled shallow enough
      · exact absurd enough (Nat.not_lt_zero _)
      · obtain ⟨shallow, shallows⟩ := Nat.max_le.mp shallow
        obtain ⟨name, before, after, text, rest, named, colon, blank, spelled, spells, -, -,
          asked⟩ := Reads.nextKey_of_spells spelled ('}' :: s)
        refine asked.bind ((Reads.key named _).bind ?_)
        refine (puts.text shallow colon blank spelled _).bind ?_
        exact ih fuel spells shallows (Nat.lt_of_succ_lt_succ enough)

end Fields

namespace Decoder

open Reader

variable {α β : Type} {limit : Nat}

namespace Accepts

theorem record {record : Record α} {members : List (String × Json)} {a : α}
    (builds : Builds (fun _ => Accepts limit) record members a)
    (distinct : decide record.fields.names.Nodup = true) :
    Accepts (limit + 1) record.decoder (.obj members) a := by
  obtain ⟨given, built⟩ := builds
  refine ⟨given.numberFree Accepts.numberFree, fun shallow cs blanks s spelled blank => ?_⟩
  cases spelled with
  | @obj _ cs spelled =>
      rw [List.cons_append, List.append_assoc]
      have enough : members.length < (cs ++ '}' :: s).length + 1 := by
        have fewer := length_le_of_spellsMembers spelled
        rw [List.length_append]
        omega
      have puts := (given.putsAll (of_decide_eq_true distinct)).text s _ spelled
        (Nat.le_of_succ_le_succ shallow) enough
      refine Reads.atToken blank rfl (Reads.inObject ((Reads.fuel _).bind ?_))
      exact puts.bind (Reads.ofExcept built _)

/-! ## Scalars and lists -/

theorem string (text : String) : Accepts limit Decoder.string (.str text) text := by
  refine ⟨rfl, fun _ cs blanks s spelled blank => ?_⟩
  cases spelled with
  | str spelled =>
      rw [List.cons_append, List.append_assoc]
      exact Reads.atToken blank rfl ((Reads.advance '"' _).bind (Reads.string spelled s))

theorem map {decoder : Decoder α} {json : Json} {a : α} (f : α → β)
    (accepts : Accepts limit decoder json a) : Accepts limit (decoder.map f) json (f a) :=
  ⟨accepts.numberFree, fun shallow _ _ s spelled blank =>
    (accepts.text shallow s spelled blank).map f⟩

theorem variantName {variants : List (String × α)} {name : String} {a : α}
    (found : variants.lookup name = some a) :
    Accepts limit (Decoder.variantName variants) (.str name) a := by
  refine ⟨rfl, fun _ cs blanks s spelled blank => ?_⟩
  have chosen : choose variants name = .ok a := by rw [choose, found]
  cases spelled with
  | str spelled =>
      rw [List.cons_append, List.append_assoc]
      refine Reads.atToken blank rfl ((Reads.advance '"' _).bind ?_)
      exact (Reads.string spelled s).bind (Reads.ofExcept chosen s)

theorem enum {variants : List (String × α)} {name : String} {a : α}
    (found : variants.lookup name = some a) :
    Accepts limit (Decoder.enum variants) (.str name) a := by
  refine ⟨rfl, fun shallow cs blanks s spelled blank => ?_⟩
  have named := (variantName found).text shallow s spelled Blank.nil
  cases spelled with
  | str spelled => exact (Reads.token blank rfl _).bind named

theorem itemsText {decoder : Decoder α} {items : List Json} {as : List α}
    (accepts : List.Forall₂ (Accepts limit decoder) items as) (s : List Char) :
    ∀ {first : Bool} {cs : List Char} (fuel : Nat), SpellsItems first items cs →
      itemsDepth items ≤ limit → items.length < fuel →
        Reads (Decoder.itemsText (decoder.text limit) fuel first) (cs ++ ']' :: s) as (']' :: s) := by
  induction accepts with
  | nil =>
      rintro first cs (_ | fuel) spelled shallow enough
      · exact absurd enough (Nat.not_lt_zero _)
      · cases spelled with
        | nil blank => exact (Reads.nextItem_end blank first s).bind (Reads.pure _ _)
  | cons accept _ ih =>
      rintro first cs (_ | fuel) spelled shallow enough
      · exact absurd enough (Nat.not_lt_zero _)
      · obtain ⟨shallow, shallows⟩ := Nat.max_le.mp shallow
        obtain ⟨text, rest, spelled, others, -, -, asked⟩ :=
          Reads.nextItem_of_spells spelled (']' :: s)
        refine asked.bind ((accept.text shallow (rest ++ ']' :: s) spelled Blank.nil).bind ?_)
        exact (ih fuel others shallows (Nat.lt_of_succ_lt_succ enough)).bind (Reads.pure _ _)

theorem list {decoder : Decoder α} {items : List Json} {as : List α}
    (accepts : List.Forall₂ (Accepts limit decoder) items as) :
    Accepts (limit + 1) decoder.list (.arr items) as := by
  refine ⟨itemsNumberFree_of_forall₂ accepts numberFree,
    fun shallow cs blanks s spelled blank => ?_⟩
  cases spelled with
  | @arr _ cs spelled =>
      rw [List.cons_append, List.append_assoc]
      have enough : items.length < (cs ++ ']' :: s).length + 1 := by
        have fewer := length_le_of_spellsItems spelled
        rw [List.length_append]
        omega
      have reads := itemsText accepts s _ spelled (Nat.le_of_succ_le_succ shallow) enough
      exact Reads.atToken blank rfl (Reads.inList ((Reads.fuel _).bind reads))

theorem list_map {decoder : Decoder α} {encode : α → Json} {as : List α}
    (accepts : ∀ a ∈ as, Accepts limit decoder (encode a) a) :
    Accepts (limit + 1) decoder.list (.arr (as.map encode)) as :=
  .list (List.forall₂_map_left_iff.mpr (List.forall₂_same.mpr accepts))

end Accepts

/-! ## Variants -/

namespace Selects

variable {variants : List (String × VariantReader α)} {kind : String}
  {members : List (String × Json)} {a : α}

/-- Once the variant is known, the other members are kept as they are. -/
theorem taggedMembers_untagged (variant : VariantReader α) (s : List Char) :
    ∀ (members kept : List (String × Json)) {cs : List Char} (fuel : Nat),
      tagKey ∉ members.map Prod.fst → SpellsMembers false members cs →
        membersDepth members ≤ limit → members.length < fuel →
          Reads (taggedMembers variants limit fuel false (some variant) kept) (cs ++ '}' :: s)
            (variant, .obj (kept.reverse ++ members)) ('}' :: s)
  | [], kept, _, fuel + 1, _, .nil blank, _, _ => by
      rw [List.append_nil]
      exact (Reads.nextKey_end blank false s).bind (Reads.pure _ _)
  | (key, json) :: rest, kept, cs, fuel + 1, untagged, spelled, shallow, enough => by
      rw [List.map_cons, List.mem_cons, not_or] at untagged
      obtain ⟨shallow, shallows⟩ := Nat.max_le.mp shallow
      obtain ⟨name, before, after, text, left, named, colon, blank, spelled, others, -, -, asked⟩ :=
        Reads.nextKey_of_spells spelled ('}' :: s)
      have reads := taggedMembers_untagged variant s rest ((key, json) :: kept) fuel untagged.2
        others shallows (Nat.lt_of_succ_lt_succ enough)
      rw [List.reverse_cons, List.append_assoc] at reads
      refine asked.bind ((Reads.key named _).bind ?_)
      rw [if_neg (Ne.symm untagged.1)]
      exact (Reads.colon colon _).bind ((Reads.value_of_spells spelled shallow blank _).bind reads)

theorem taggedMembers_kind {variant : VariantReader α} (found : variants.lookup kind = some variant)
    (untagged : tagKey ∉ members.map Prod.fst) {cs : List Char}
    (spelled : SpellsMembers true ((tagKey, .str kind) :: members) cs)
    (shallow : membersDepth members ≤ limit) (s : List Char) (fuel : Nat)
    (enough : members.length + 1 < fuel) :
    Reads (taggedMembers variants limit fuel true none []) (cs ++ '}' :: s)
      (variant, .obj members) ('}' :: s) := by
  obtain ⟨fuel, rfl⟩ := Nat.exists_eq_add_of_lt (Nat.zero_lt_of_lt enough)
  obtain ⟨name, before, after, text, left, named, colon, blank, spelled, others, -, -, asked⟩ :=
    Reads.nextKey_of_spells spelled ('}' :: s)
  -- The kind comes first, so the variant is known before any member is kept.
  have chosen := (Accepts.variantName found).text (Nat.zero_le limit) (left ++ '}' :: s) spelled
    blank
  refine asked.bind ((Reads.key named _).bind ((Reads.colon colon _).bind (chosen.bind ?_)))
  exact taggedMembers_untagged variant s members [] _ untagged others shallow (by omega)

theorem accepts (name : String) (selects : Selects limit variants kind members a) :
    Accepts (limit + 1) (tagged name variants) (.obj ((tagKey, .str kind) :: members)) a := by
  refine ⟨selects.numberFree, fun shallow cs blanks s spelled blank => ?_⟩
  obtain @⟨variant, found, untagged, -, value⟩ := selects
  have shallow : membersDepth members ≤ limit :=
    (Nat.max_le.mp (Nat.le_of_succ_le_succ shallow)).2
  cases spelled with
  | @obj _ cs spelled =>
      rw [List.cons_append, List.append_assoc]
      have enough : members.length + 1 < (cs ++ '}' :: s).length + 1 := by
        have fewer := length_le_of_spellsMembers spelled
        rw [List.length_cons] at fewer
        simp only [List.length_append, List.length_cons]
        omega
      have kept := taggedMembers_kind found untagged spelled shallow s _ enough
      refine Reads.bind (a := (variant, .obj members)) (t := s) ?_ (Reads.ofExcept (value shallow) s)
      exact Reads.atToken blank rfl (Reads.inObject ((Reads.fuel _).bind kept))

end Selects

end Decoder

end PapyrusWriter.Json
