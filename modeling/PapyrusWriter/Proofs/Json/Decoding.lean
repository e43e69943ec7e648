import Mathlib.Data.List.Forall2
import PapyrusWriter.Proofs.Json.Spelling
import PapyrusWriter.Tree.Decode
import PapyrusWriter.Tree.Encode
/-!
# What decoders read

`Decodes limit decoder json a` says that the decoder takes the value for `a`, if it is not deeper
than `limit`. There is a rule for each way to build a decoder.

The members of a record are put into the slots of its fields one after another. What this needs of
the field decoders is the same for values and for texts, so it is stated once, over a relation
between decoders, values and results (`Fields.Given.putsAll`).
-/

namespace PapyrusWriter.Json

set_option autoImplicit false

/-- A relation between a decoder, a value and a result. -/
abbrev Decoder.Relation := (β : Type) → Decoder β → Json → β → Prop

/-- The decoder takes the value, in which no number stands, for `a`. -/
structure Decoder.Decodes (limit : Nat) {α : Type} (decoder : Decoder α) (json : Json) (a : α) :
    Prop where
  numberFree : json.isNumberFree = true
  value : json.depth ≤ limit → decoder.value json = .ok a

/-! ## Fields -/

namespace Fields

variable {R : Decoder.Relation} {β : Type} {types : List Type}

def names : {types : List Type} → Fields types → List String
  | _, .nil => []
  | _, .cons name _ _ rest => name :: names rest

/-- The members give the fields their values, all of them and in order. -/
inductive Given (R : Decoder.Relation) :
    {types : List Type} → Fields types → List (String × Json) → Slots types → Prop where
  | nil : Given R .nil [] ()
  | cons {β : Type} {types : List Type} {name : String} {decoder : Decoder β} {absent : Option β}
      {rest : Fields types} {json : Json} {field : β} {members : List (String × Json)}
      {slots : Slots types} (here : R β decoder json field) (others : Given R rest members slots) :
      Given R (.cons name decoder absent rest) ((name, json) :: members) (some field, slots)

/-- A member fills the empty slot of its field. -/
inductive Puts (R : Decoder.Relation) :
    {types : List Type} → Fields types → String → Json → Slots types → Slots types → Prop where
  | here {β : Type} {types : List Type} {name : String} {decoder : Decoder β} {absent : Option β}
      {rest : Fields types} {json : Json} {field : β} {slots : Slots types}
      (decoded : R β decoder json field) :
      Puts R (.cons name decoder absent rest) name json (none, slots) (some field, slots)
  | there {β : Type} {types : List Type} {name key : String} {decoder : Decoder β}
      {absent : Option β} {rest : Fields types} {json : Json} {slot : Option β}
      {slots slots' : Slots types} (other : key ≠ name) (puts : Puts R rest key json slots slots') :
      Puts R (.cons name decoder absent rest) key json (slot, slots) (slot, slots')

/-- The members fill slots one after another. -/
inductive PutsAll (R : Decoder.Relation) {types : List Type} (fields : Fields types) :
    List (String × Json) → Slots types → Slots types → Prop where
  | nil {slots : Slots types} : PutsAll R fields [] slots slots
  | cons {key : String} {json : Json} {members : List (String × Json)}
      {slots slots' slots'' : Slots types} (first : Puts R fields key json slots slots')
      (others : PutsAll R fields members slots' slots'') :
      PutsAll R fields ((key, json) :: members) slots slots''

theorem Given.keys {fields : Fields types} {members : List (String × Json)} {slots : Slots types}
    (given : Given R fields members slots) : members.map Prod.fst = fields.names := by
  induction given with
  | nil => rfl
  | cons here others ih => rw [List.map_cons, ih, names]

theorem PutsAll.there {name : String} {decoder : Decoder β} {absent slot : Option β}
    {rest : Fields types} {members : List (String × Json)} {slots slots' : Slots types}
    (puts : PutsAll R rest members slots slots') (other : name ∉ members.map Prod.fst) :
    PutsAll R (.cons name decoder absent rest) members (slot, slots) (slot, slots') := by
  induction puts with
  | nil => exact .nil
  | cons first others ih =>
      rw [List.map_cons, List.mem_cons, not_or] at other
      exact .cons (.there (Ne.symm other.1) first) (ih other.2)

/-- Members in the order of the fields fill all slots. -/
theorem Given.putsAll {fields : Fields types} {members : List (String × Json)} {slots : Slots types}
    (given : Given R fields members slots) (distinct : fields.names.Nodup) :
    PutsAll R fields members (empty types) slots := by
  induction given with
  | nil => exact .nil
  | cons here others ih =>
      rw [names, List.nodup_cons, ← others.keys] at distinct
      obtain ⟨fresh, distinct⟩ := distinct
      -- The other members have other keys, so they leave the first slot as it is.
      exact .cons (.here here) ((ih (others.keys ▸ distinct)).there fresh)

end Fields

/-! ## Values -/

namespace Fields

open Decoder

variable {types : List Type} {fields : Fields types} {limit : Nat} {slots slots' : Slots types}
  {members : List (String × Json)}

theorem Given.numberFree {R : Decoder.Relation} (given : Given R fields members slots)
    (free : ∀ {β : Type} {decoder : Decoder β} {json : Json} {field : β},
      R β decoder json field → json.isNumberFree = true) : membersNumberFree members = true := by
  induction given with
  | nil => rfl
  | cons here others ih => rw [membersNumberFree, free here, ih, Bool.and_true]

theorem Puts.value {key : String} {json : Json}
    (puts : Puts (fun _ => Decodes limit) fields key json slots slots')
    (shallow : json.depth ≤ limit) : fields.putValue key json slots = .ok (some slots') := by
  induction puts with
  | here decoded =>
      simp only [putValue, if_true, decoded.value shallow]
      rfl
  | there other puts ih =>
      simp only [putValue, if_neg other, ih shallow]
      rfl

theorem PutsAll.value (puts : PutsAll (fun _ => Decodes limit) fields members slots slots') :
    membersDepth members ≤ limit → fields.membersValue members slots = .ok slots' := by
  induction puts with
  | nil => exact fun _ => rfl
  | cons first others ih =>
      intro shallow
      obtain ⟨shallow, shallows⟩ := Nat.max_le.mp shallow
      simp only [membersValue, first.value shallow]
      exact ih shallows

end Fields

namespace Decoder

variable {α β : Type} {limit : Nat}

/-- An object that gives all fields in order, and what the record makes of their values. -/
inductive Builds (R : Relation) (record : Record α) (members : List (String × Json)) (a : α) :
    Prop where
  | intro {slots : Slots record.types} (given : record.fields.Given R members slots)
      (built : record.fields.finish slots record.build = .ok a)

theorem Builds.value {record : Record α} {members : List (String × Json)} {a : α}
    (builds : Builds (fun _ => Decodes limit) record members a)
    (distinct : record.fields.names.Nodup) (shallow : membersDepth members ≤ limit) :
    record.value (.obj members) = .ok a := by
  obtain ⟨given, built⟩ := builds
  simp only [Record.value, (given.putsAll distinct).value shallow]
  exact built

theorem itemsNumberFree_of_forall₂ {R : Json → α → Prop} {items : List Json} {as : List α}
    (related : List.Forall₂ R items as)
    (free : ∀ {json : Json} {a : α}, R json a → json.isNumberFree = true) :
    itemsNumberFree items = true := by
  induction related with
  | nil => rfl
  | cons first _ ih => rw [itemsNumberFree, free first, ih, Bool.and_true]

namespace Decodes

theorem mono {decoder : Decoder α} {json : Json} {a : α} {less : Nat}
    (decodes : Decodes limit decoder json a) (le : less ≤ limit) : Decodes less decoder json a :=
  ⟨decodes.numberFree, fun shallow => decodes.value (Nat.le_trans shallow le)⟩

theorem string (text : String) : Decodes limit Decoder.string (.str text) text :=
  ⟨rfl, fun _ => rfl⟩

theorem bool (value : Bool) : Decodes limit Decoder.bool (.bool value) value :=
  ⟨rfl, fun _ => rfl⟩

theorem enum {variants : List (String × α)} {name : String} {a : α}
    (found : variants.lookup name = some a) :
    Decodes limit (Decoder.enum variants) (.str name) a := by
  refine ⟨rfl, fun _ => ?_⟩
  simp only [Decoder.enum, choose, found]

theorem map {decoder : Decoder α} {json : Json} {a : α} (f : α → β)
    (decodes : Decodes limit decoder json a) : Decodes limit (decoder.map f) json (f a) := by
  refine ⟨decodes.numberFree, fun shallow => ?_⟩
  simp only [Decoder.map, decodes.value shallow]
  rfl

theorem option_none (decoder : Decoder α) : Decodes limit decoder.option .null none :=
  ⟨rfl, fun _ => rfl⟩

theorem option_some {decoder : Decoder α} {json : Json} {a : α} (present : json ≠ .null)
    (decodes : Decodes limit decoder json a) : Decodes limit decoder.option json (some a) := by
  refine ⟨decodes.numberFree, fun shallow => ?_⟩
  have value : decoder.option.value json = some <$> decoder.value json := by
    simp only [Decoder.option]
  rw [value, decodes.value shallow]
  rfl

theorem option {decoder : Decoder α} {encode : α → Json} {given : Option α}
    (present : ∀ a, encode a ≠ .null) (decodes : ∀ a ∈ given, Decodes limit decoder (encode a) a) :
    Decodes limit decoder.option (.ofOption encode given) given := by
  cases given with
  | none => exact option_none decoder
  | some a => exact option_some (present a) (decodes a rfl)

theorem list {decoder : Decoder α} {items : List Json} {as : List α}
    (decodes : List.Forall₂ (Decodes limit decoder) items as) :
    Decodes limit decoder.list (.arr items) as := by
  have free := itemsNumberFree_of_forall₂ decodes numberFree
  have value : itemsDepth items ≤ limit → itemsValue decoder.value items = .ok as := by
    clear free
    induction decodes with
    | nil => exact fun _ => rfl
    | cons first _ ih =>
        intro shallow
        obtain ⟨shallow, shallows⟩ := Nat.max_le.mp shallow
        simp only [itemsValue, first.value shallow, ih shallows]
        rfl
  exact ⟨free, fun shallow => value (Nat.le_of_succ_le shallow)⟩

theorem list_map {decoder : Decoder α} {encode : α → Json} {as : List α}
    (decodes : ∀ a ∈ as, Decodes limit decoder (encode a) a) :
    Decodes limit decoder.list (.arr (as.map encode)) as :=
  .list (List.forall₂_map_left_iff.mpr (List.forall₂_same.mpr decodes))

theorem record {record : Record α} {members : List (String × Json)} {a : α}
    (builds : Builds (fun _ => Decodes limit) record members a)
    (distinct : decide record.fields.names.Nodup = true) :
    Decodes limit record.decoder (.obj members) a := by
  refine ⟨?_, fun shallow => ?_⟩
  · obtain ⟨given, -⟩ := builds
    exact given.numberFree Decodes.numberFree
  · exact builds.value (of_decide_eq_true distinct) (Nat.le_of_succ_le shallow)

end Decodes

/-! ## Variants -/

/-- The kind names a variant, and the variant takes the other members for `a`. -/
inductive Selects (limit : Nat) (variants : List (String × VariantReader α)) (kind : String)
    (members : List (String × Json)) (a : α) : Prop where
  | intro {variant : VariantReader α} (found : variants.lookup kind = some variant)
      (untagged : tagKey ∉ members.map Prod.fst) (free : membersNumberFree members = true)
      (value : membersDepth members ≤ limit → variant (.obj members) = .ok a)

namespace Selects

variable {variants : List (String × VariantReader α)} {kind : String}
  {members : List (String × Json)} {a : α}

theorem mono {less : Nat} (selects : Selects limit variants kind members a) (le : less ≤ limit) :
    Selects less variants kind members a := by
  obtain ⟨found, untagged, free, value⟩ := selects
  exact ⟨found, untagged, free, fun shallow => value (Nat.le_trans shallow le)⟩

/-- A variant whose fields are those of a record. -/
theorem made {record : Record β} {b : β} (make : β → α)
    (found : variants.lookup kind = some (record.variant make))
    (builds : Builds (fun _ => Decodes limit) record members b)
    (distinct : decide (tagKey :: record.fields.names).Nodup = true) :
    Selects limit variants kind members (make b) := by
  have distinct := List.nodup_cons.mp (of_decide_eq_true distinct)
  have value := builds.value distinct.2
  obtain ⟨given, -⟩ := builds
  refine ⟨found, given.keys ▸ distinct.1, given.numberFree Decodes.numberFree, fun shallow => ?_⟩
  simp only [Record.variant, value shallow]
  rfl

/-- A variant with fields of its own. -/
theorem record {record : Record α} (found : variants.lookup kind = some record.value)
    (builds : Builds (fun _ => Decodes limit) record members a)
    (distinct : decide (tagKey :: record.fields.names).Nodup = true) :
    Selects limit variants kind members a := by
  have distinct := List.nodup_cons.mp (of_decide_eq_true distinct)
  have value := builds.value distinct.2
  obtain ⟨given, -⟩ := builds
  exact ⟨found, given.keys ▸ distinct.1, given.numberFree Decodes.numberFree, value⟩

/-- Once the variant is known, the other members are kept as they are. -/
theorem taggedValue_untagged (variant : VariantReader α) (untagged : tagKey ∉ members.map Prod.fst)
    (kept : List (String × Json)) :
    taggedValue variants members (some variant) kept =
      .ok (variant, .obj (kept.reverse ++ members)) := by
  induction members generalizing kept with
  | nil => rw [taggedValue, List.append_nil]
  | cons member rest ih =>
      rw [List.map_cons, List.mem_cons, not_or] at untagged
      rw [taggedValue, if_neg (Ne.symm untagged.1), ih untagged.2]
      simp

theorem numberFree (selects : Selects limit variants kind members a) :
    (Json.obj ((tagKey, .str kind) :: members)).isNumberFree = true := by
  obtain ⟨-, -, free, -⟩ := selects
  exact free

theorem decodes (name : String) (selects : Selects limit variants kind members a) :
    Decodes (limit + 1) (tagged name variants) (.obj ((tagKey, .str kind) :: members)) a := by
  refine ⟨selects.numberFree, fun shallow => ?_⟩
  obtain ⟨found, untagged, -, value⟩ := selects
  have shallow : membersDepth members ≤ limit :=
    (Nat.max_le.mp (Nat.le_of_succ_le_succ shallow)).2
  simp only [tagged, taggedValue, variantName, choose, found]
  simp only [Option.isSome_none, Bool.false_eq_true, if_true, if_false]
  show (taggedValue variants members _ [] >>= fun found => found.1 found.2) = _
  rw [taggedValue_untagged _ untagged]
  exact value shallow

/-- In a family of decoders where each level is built on the one below, a value is decoded on a
level if its fields are decoded on the level below. -/
theorem decodes_level {family : Nat → Decoder α} {name : String} {bound : Nat}
    {variants : Decoder α → List (String × VariantReader α)}
    (step : ∀ level, family (level + 1) = tagged name (variants (family level)))
    (selects : ∀ level ≤ bound, Selects level (variants (family level)) kind members a) :
    ∀ level ≤ bound, Decodes level (family level) (.obj ((tagKey, .str kind) :: members)) a := by
  intro level within
  cases level with
  | zero =>
      -- An object is one level deep at least, so there is nothing to decode here.
      exact ⟨(selects 0 within).numberFree, fun shallow => absurd shallow (Nat.not_succ_le_zero _)⟩
  | succ level =>
      rw [step level]
      exact (selects level (Nat.le_of_succ_le within)).decodes name

end Selects

end Decoder

end PapyrusWriter.Json
