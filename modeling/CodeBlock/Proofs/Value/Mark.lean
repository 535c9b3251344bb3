import CodeBlock.Proofs.Text.Mark
import CodeBlock.Proofs.Value.Unambiguous

set_option autoImplicit false

/-! # Literals without marks

A value whose texts have no mark in them has a literal that has none: the literal adds quotes, brackets and
separators, of which none is a hash or a bang, and field names in camel case lose whatever is no letter and
no number. -/

namespace CodeBlock

open Text (Unmarked unmarked_of_notMem)

/-! ## Leaves and labels -/

/-- Hashes and bangs are written as they are, and nothing else is written with one. -/
theorem Json.escapeChar_eq_or (c : Char) :
    Json.escapeChar c = [c] ∨
      (Json.escapeChar c ≠ [] ∧ '#' ∉ Json.escapeChar c ∧ '!' ∉ Json.escapeChar c) := by
  by_cases hcontrol : c.toNat < 0x20
  · right
    have hall : ∀ n < 0x20, Json.escapeChar (Char.ofNat n) ≠ [] ∧ '#' ∉ Json.escapeChar (Char.ofNat n) ∧
        '!' ∉ Json.escapeChar (Char.ofNat n) := by decide +kernel
    have hc := hall c.toNat hcontrol
    rwa [Char.ofNat_toNat] at hc
  · unfold Json.escapeChar
    split
    case h_8 => exact .inl (if_neg hcontrol)
    all_goals exact .inr (by decide)

theorem unmarked_quoted {s : List Char} (h : Unmarked s) : Unmarked (Json.quoted s) :=
  ((h.flatMap Json.escapeChar_eq_or).cons (by decide)).append_cons (by decide)
    (unmarked_of_notMem (by decide))

theorem unmarked_labelText {label : List Char} (h : Unmarked label) : Unmarked (labelText label) := by
  cases hbare : isBareLabel label with
  | false =>
      rw [labelText_of_not_isBareLabel hbare]
      exact unmarked_quoted h
  | true =>
      rw [labelText, if_pos hbare]
      exact h

theorem hash_notMem_numberText (x : Binary64) : '#' ∉ Scalar.numberText x := by
  cases x with
  | nan => decide
  | infinite negative => cases negative <;> decide
  | finite x =>
      obtain ⟨sign, negative, mantissa, n, places, htext, hsign, hmantissa, -⟩ :=
        Listing.numberMeans_numberText x
      rw [htext]
      exact Listing.notMem_of_isNumeral
        (List.forall_mem_append.2 ⟨hsign.isNumeral, hmantissa.isNumeral⟩) (by decide)

namespace Value

/-! ## Values -/

mutual

/-- The texts that a value holds: strings, bare words and labels. -/
def texts : Value → List (List Char)
  | .scalar (.str s) => [s.toList]
  | .scalar (.atom word) => [word.toList]
  | .scalar _ => []
  | .sequence items => textsOfItems items
  | .record fields => textsOfFields fields

/-- The texts that the elements of a sequence hold. -/
def textsOfItems : List Value → List (List Char)
  | [] => []
  | item :: items => item.texts ++ textsOfItems items

def textsOfFields : List (String × Value) → List (List Char)
  | [] => []
  | (label, value) :: fields => label.toList :: value.texts ++ textsOfFields fields

end

theorem unmarked_leaf {leaf : Scalar} (h : ∀ t ∈ texts (.scalar leaf), Unmarked t) :
    Unmarked leaf.literalText := by
  cases leaf with
  | str s =>
      rw [literalText_str]
      exact unmarked_quoted (h _ (by simp [texts]))
  | int i =>
      have hwhole := (Listing.wholeMeans_integerText i).isNumeral
      exact (unmarked_of_notMem (Listing.notMem_of_isNumeral hwhole (by decide))).replaceChar
  | float x => exact (unmarked_of_notMem (hash_notMem_numberText x)).replaceChar
  | bool b => cases b <;> exact unmarked_of_notMem (by decide)
  | atom word => exact (h word.toList (by simp [texts])).replaceChar

/-- A separator before a text makes no mark. -/
theorem unmarked_separated (first : Bool) {s : List Char} (h : Unmarked s) :
    Unmarked ((if first then [] else [',', ' ']) ++ s) := by
  cases first with
  | true => exact h
  | false => exact (h.cons (by decide)).cons (by decide)

theorem head?_itemsText_ne (items : List Value) : (itemsText false items).head? ≠ some '!' := by
  cases items <;> simp [itemsText]

theorem head?_fieldsText_ne (fields : List (String × Value)) :
    (fieldsText false fields).head? ≠ some '!' := by
  cases fields <;> simp [fieldsText]

mutual

/-- The literal of a value without marks has none. -/
theorem unmarked_literalText : (v : Value) → (∀ t ∈ v.texts, Unmarked t) → Unmarked v.literalText
  | .scalar leaf, h => by
      rw [literalText]
      exact unmarked_leaf h
  | .sequence items, h => by
      rw [texts] at h
      rw [literalText]
      exact ((unmarked_itemsText true items h).cons (by decide)).append_cons (by decide)
        (unmarked_of_notMem (by decide))
  | .record [], _ => by
      rw [literalText]
      exact unmarked_of_notMem (by decide)
  | .record (field :: fields), h => by
      rw [texts] at h
      rw [literalText]
      exact (((unmarked_fieldsText true (field :: fields) h).cons (by decide)).cons (by decide)).append_cons
        (by decide) (unmarked_of_notMem (by decide))

/-- So have the elements of a sequence. -/
theorem unmarked_itemsText (first : Bool) : (items : List Value) →
    (∀ t ∈ textsOfItems items, Unmarked t) → Unmarked (itemsText first items)
  | [], _ => by
      rw [itemsText]
      exact unmarked_of_notMem (by decide)
  | item :: items, h => by
      rw [textsOfItems, List.forall_mem_append] at h
      rw [itemsText, List.append_assoc]
      exact unmarked_separated first ((unmarked_literalText item h.1).append
        (unmarked_itemsText false items h.2) fun _ => head?_itemsText_ne items)

theorem unmarked_fieldsText (first : Bool) : (fields : List (String × Value)) →
    (∀ t ∈ textsOfFields fields, Unmarked t) → Unmarked (fieldsText first fields)
  | [], _ => by
      rw [fieldsText]
      exact unmarked_of_notMem (by decide)
  | (label, value) :: fields, h => by
      rw [textsOfFields, List.forall_mem_append, List.forall_mem_cons] at h
      obtain ⟨⟨hlabel, hvalue⟩, hfields⟩ := h
      have hvalue := unmarked_literalText value hvalue
      have hfields := unmarked_fieldsText false fields hfields
      have hfield := (unmarked_labelText hlabel).append_cons (c := ':') (by decide)
        ((hvalue.cons (c := ' ') (by decide)).cons (by decide))
      rw [fieldsText, List.append_assoc _ (labelText label.toList), List.append_assoc]
      exact unmarked_separated first (hfield.append hfields fun _ => head?_fieldsText_ne fields)

end

/-! ## Shapes -/

mutual

theorem unmarked_shaped (names : List String) (asRecord : Bool) : (v : Value) →
    (∀ t ∈ v.texts, Unmarked t) → ∀ t ∈ (v.shaped names asRecord).texts, Unmarked t
  | .scalar leaf, h => by
      rw [shaped]
      exact h
  | .sequence items, h => by
      rw [texts] at h
      rw [shaped]
      split
      · rw [texts]
        exact unmarked_zipped names items h
      · rw [texts]
        exact unmarked_shapedItems names (!names.isEmpty) items h
  | .record fields, h => by
      rw [texts] at h
      rw [shaped, texts]
      exact unmarked_shapedFields fields h

theorem unmarked_shapedItems (names : List String) (asRecord : Bool) : (items : List Value) →
    (∀ t ∈ textsOfItems items, Unmarked t) →
    ∀ t ∈ textsOfItems (shapedItems names asRecord items), Unmarked t
  | [], _ => by simp [shapedItems, textsOfItems]
  | item :: items, h => by
      rw [textsOfItems, List.forall_mem_append] at h
      rw [shapedItems, textsOfItems, List.forall_mem_append]
      exact ⟨unmarked_shaped names asRecord item h.1, unmarked_shapedItems names asRecord items h.2⟩

theorem unmarked_zipped (names : List String) : (items : List Value) →
    (∀ t ∈ textsOfItems items, Unmarked t) → ∀ t ∈ textsOfFields (zipped names items), Unmarked t
  | [], _ => by simp [zipped, textsOfFields]
  | item :: items, h => by
      rw [textsOfItems, List.forall_mem_append] at h
      cases names with
      | nil => simp [zipped, textsOfFields]
      | cons name names =>
          rw [zipped, textsOfFields, List.forall_mem_append, List.forall_mem_cons]
          exact ⟨⟨unmarked_of_notMem (Text.hash_notMem_lowerCamel name), unmarked_shaped [] false item h.1⟩,
            unmarked_zipped names items h.2⟩

theorem unmarked_shapedFields : (fields : List (String × Value)) →
    (∀ t ∈ textsOfFields fields, Unmarked t) → ∀ t ∈ textsOfFields (shapedFields fields), Unmarked t
  | [], _ => by simp [shapedFields, textsOfFields]
  | (label, value) :: fields, h => by
      rw [textsOfFields, List.forall_mem_append, List.forall_mem_cons] at h
      rw [shapedFields, textsOfFields, List.forall_mem_append, List.forall_mem_cons]
      exact ⟨⟨h.1.1, unmarked_shaped [] false value h.1.2⟩, unmarked_shapedFields fields h.2⟩

end

end Value

end CodeBlock
