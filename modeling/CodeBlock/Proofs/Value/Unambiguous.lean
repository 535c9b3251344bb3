import CodeBlock.Proofs.Listing.Writing

set_option autoImplicit false

/-! # Literals tell values apart

Different values have different literals, records and all that is nested in them included. A literal says
nothing of its length, so what is proved is more: where two literals stand in front of any two texts that
an element may end before, and all in all the texts are the same, the values are the same and so is what
follows. A leaf and a text in quotes are told apart by the reader of listings, which reads off their ends;
records are not for that reader, and go by their brackets, labels and separators.

Numbers with a fraction are left out, for `1` is the literal of two numbers; so are bare words that read
as something else. -/

namespace CodeBlock

namespace Scalar

/-- Whether the literal of a leaf is that of no other leaf: a bare word has to read as one, and a number is
    whole or not finite. -/
def IsUnambiguous : Scalar → Prop
  | .float (.finite _) => False
  | leaf => leaf.IsReadable

/-- What is read back from the literal of such a leaf is the leaf. -/
theorem IsUnambiguous.settled_eq {leaf : Scalar} (h : leaf.IsUnambiguous) : leaf.settled = leaf := by
  cases leaf with
  | float x =>
      cases x with
      | finite x => exact absurd h (by simp [IsUnambiguous])
      | nan => rfl
      | infinite negative => rfl
  | _ => rfl

theorem IsUnambiguous.isReadable {leaf : Scalar} (h : leaf.IsUnambiguous) : leaf.IsReadable := by
  cases leaf with
  | float x => trivial
  | _ => exact h

end Scalar

namespace Value

/-- A value in which each leaf has a literal of its own, however deep the leaf stands. -/
inductive IsUnambiguous : Value → Prop
  | scalar {leaf : Scalar} : leaf.IsUnambiguous → IsUnambiguous (.scalar leaf)
  | sequence {items : List Value} :
      (∀ item ∈ items, IsUnambiguous item) → IsUnambiguous (.sequence items)
  | record {fields : List (String × Value)} :
      (∀ field ∈ fields, IsUnambiguous field.2) → IsUnambiguous (.record fields)

end Value

open Listing

/-! ## Texts in quotes and labels -/

/-- Texts in quotes end at their closing quotes, and are told apart. -/
theorem quoted_append_inj {s t r r' : List Char} (h : Json.quoted s ++ r = Json.quoted t ++ r') :
    s = t ∧ r = r' := by
  have hread : ∀ (u rest : List Char) {fuel : Nat}, (u.flatMap Json.escapeChar).length < fuel →
      readText '"' [] fuel (u.flatMap Json.escapeChar ++ '"' :: rest) = some (u, rest) :=
    fun u rest _ hfuel => readText_of_isBody (by decide) (isBody_flatMap_escapeChar u) rest [] hfuel
  simp only [Json.quoted, List.cons_append, List.append_assoc, List.nil_append, List.cons.injEq,
    true_and] at h
  have hs := hread s r (Nat.lt_succ_of_le (Nat.le_max_left _ (t.flatMap Json.escapeChar).length))
  have ht := hread t r' (Nat.lt_succ_of_le (Nat.le_max_right (s.flatMap Json.escapeChar).length _))
  rw [h, ht, Option.some.injEq, Prod.mk.injEq] at hs
  exact ⟨hs.1.symm, hs.2.symm⟩

theorem literalText_str (s : String) : (Scalar.str s).literalText = Json.quoted s.toList := by
  rw [Scalar.literalText, Scalar.plainText, Text.replaceChar_eq_self (newline_notMem_quoted _)]

theorem labelText_of_not_isBareLabel {label : List Char} (h : isBareLabel label = false) :
    labelText label = Json.quoted label := by
  rw [labelText, if_neg (by simp [h]), literalText_str, String.toList_ofList]

/-- A label that stands bare holds nothing but the characters of labels, and starts with no quote. -/
theorem isLabelChar_of_isBareLabel {label : List Char} (h : isBareLabel label = true) :
    (∀ c ∈ label, isLabelChar c = true) ∧ ∀ c ∈ label.head?, c ≠ '"' := by
  cases label with
  | nil => exact absurd h (by simp [isBareLabel])
  | cons c rest =>
      simp only [isBareLabel, Bool.and_eq_true, List.all_eq_true] at h
      refine ⟨fun d hd => ?_, fun d hd => ?_⟩
      · rcases List.mem_cons.1 hd with rfl | hd
        · simp [isLabelChar, h.1]
        · exact h.2 d hd
      · obtain rfl : c = d := by simpa using hd
        rintro rfl
        exact absurd h.1 (by decide +kernel)

theorem bare_append_ne_quoted_append {label other r r' : List Char} (h : isBareLabel label = true) :
    label ++ r ≠ Json.quoted other ++ r' := by
  intro heq
  cases label with
  | nil => exact absurd h (by simp [isBareLabel])
  | cons c rest =>
      have hc : c = '"' := by
        simp only [Json.quoted, List.cons_append, List.cons.injEq] at heq
        exact heq.1
      exact (isLabelChar_of_isBareLabel h).2 c rfl hc

/-- Labels end at their colons, and are told apart. -/
theorem labelText_append_inj {label other r r' : List Char}
    (h : labelText label ++ ':' :: r = labelText other ++ ':' :: r') : label = other ∧ r = r' := by
  cases hlabel : isBareLabel label with
  | true =>
      rw [labelText, if_pos hlabel] at h
      cases hother : isBareLabel other with
      | true =>
          rw [labelText, if_pos hother] at h
          -- a bare label goes up to the colon, which is no character of a label
          have hcolon : ∀ rest : List Char, ∀ c ∈ (':' :: rest).head?, isLabelChar c = false := by
            intro rest c hc
            obtain rfl : ':' = c := by simpa using hc
            decide +kernel
          have hspan := Text.span_append (isLabelChar_of_isBareLabel hlabel).1 (hcolon r)
          rw [h, Text.span_append (isLabelChar_of_isBareLabel hother).1 (hcolon r')] at hspan
          simp only [Prod.mk.injEq, List.cons.injEq, true_and] at hspan
          exact ⟨hspan.1.symm, hspan.2.symm⟩
      | false =>
          rw [labelText_of_not_isBareLabel hother] at h
          exact absurd h (bare_append_ne_quoted_append hlabel)
  | false =>
      rw [labelText_of_not_isBareLabel hlabel] at h
      cases hother : isBareLabel other with
      | true =>
          rw [labelText, if_pos hother] at h
          exact absurd h.symm (bare_append_ne_quoted_append hother)
      | false =>
          rw [labelText_of_not_isBareLabel hother] at h
          obtain ⟨hs, hr⟩ := quoted_append_inj h
          exact ⟨hs, (List.cons.inj hr).2⟩

/-! ## Leaves -/

/-- A leaf is read off the front of any text that it may end before. -/
theorem readElement_literalText {leaf : Scalar} (h : leaf.IsUnambiguous) {r : List Char}
    (hr : endsElement r = true) :
    readElement 0 1 (leaf.literalText ++ r) = some (.scalar leaf, r) := by
  have hleaf := leafMeans_literalText h.isReadable
  rw [h.settled_eq] at hleaf
  exact readElement_of_leafMeans hleaf hr 0 0

/-- Leaves are told apart. -/
theorem leaf_append_inj {leaf other : Scalar} (h : leaf.IsUnambiguous) (h' : other.IsUnambiguous)
    {r r' : List Char} (hr : endsElement r = true) (hr' : endsElement r' = true)
    (heq : leaf.literalText ++ r = other.literalText ++ r') : leaf = other ∧ r = r' := by
  have hread := readElement_literalText h hr
  rw [heq, readElement_literalText h' hr'] at hread
  simp only [Option.some.injEq, Prod.mk.injEq, Value.scalar.injEq] at hread
  exact ⟨hread.1.symm, hread.2.symm⟩

/-- No leaf starts with a bracket or a brace. -/
theorem leaf_append_ne {leaf : Scalar} (h : leaf.IsUnambiguous) {r : List Char}
    (hr : endsElement r = true) {c : Char} (hc : c = '[' ∨ c = '\x7b') (s : List Char) :
    leaf.literalText ++ r ≠ c :: s := by
  intro heq
  have hread := readElement_literalText h hr
  rw [heq] at hread
  have hnone : readElement 0 1 (c :: s) = none := by
    rcases hc with rfl | rfl
    · rfl
    · simp only [readElement, show isWordStart '\x7b' = false by decide +kernel]
      simp
  rw [hnone] at hread
  exact absurd hread (by simp)

/-! ## Rows -/

namespace Value

theorem IsUnambiguous.head {v : Value} (h : v.IsUnambiguous) :
    ∃ c rest, v.literalText = c :: rest ∧ startsElement c = true := by
  cases h with
  | scalar hleaf =>
      obtain ⟨c, rest, hs, hc, -⟩ := (leafMeans_literalText hleaf.isReadable).head
      rw [literalText]
      exact ⟨c, rest, hs, hc⟩
  | @sequence items _ =>
      rw [literalText]
      exact ⟨'[', itemsText true items ++ [']'], rfl, by decide⟩
  | @record fields _ =>
      cases fields with
      | nil => exact ⟨'\x7b', ['\x7d'], rfl, by decide⟩
      | cons field fields =>
          rw [literalText]
          exact ⟨'\x7b', ' ' :: fieldsText true (field :: fields) ++ [' ', '\x7d'], rfl, by decide⟩

/-- `v` is told apart from any other value, in front of any texts that they may end before. -/
def IsToldApart (v : Value) : Prop :=
  ∀ {w : Value}, w.IsUnambiguous → ∀ {r r' : List Char}, endsElement r = true → endsElement r' = true →
    v.literalText ++ r = w.literalText ++ r' → v = w ∧ r = r'

/-- Behind an element of a sequence, it may end. -/
theorem endsElement_itemsText (items : List Value) (r : List Char) :
    endsElement (itemsText false items ++ ']' :: r) = true := by
  cases items with
  | nil => simp [itemsText, endsElement]
  | cons item items => simp [itemsText, endsElement, isSeparator]

/-- A row with an element does not start with the closing bracket. -/
theorem itemsText_cons_append_ne {item : Value} (h : item.IsUnambiguous) (first : Bool)
    (items : List Value) (r r' : List Char) : itemsText first (item :: items) ++ r ≠ ']' :: r' := by
  obtain ⟨c, rest, hs, hc⟩ := h.head
  intro heq
  cases first with
  | false => simp [itemsText] at heq
  | true =>
      simp only [itemsText, if_true, List.nil_append, hs, List.cons_append, List.cons.injEq] at heq
      rw [heq.1] at hc
      exact absurd hc (by decide)

/-- Rows of elements are told apart if their elements are. -/
theorem itemsText_append_inj {items others : List Value} (h : ∀ item ∈ items, item.IsUnambiguous)
    (happart : ∀ item ∈ items, item.IsToldApart) (h' : ∀ item ∈ others, item.IsUnambiguous)
    (first : Bool) {r r' : List Char}
    (heq : itemsText first items ++ ']' :: r = itemsText first others ++ ']' :: r') :
    items = others ∧ r = r' := by
  induction items generalizing others first with
  | nil =>
      cases others with
      | nil => simpa [itemsText] using heq
      | cons other others =>
          exact absurd heq.symm (itemsText_cons_append_ne (h' other List.mem_cons_self) first others _ _)
  | cons item items ih =>
      cases others with
      | nil => exact absurd heq (itemsText_cons_append_ne (h item List.mem_cons_self) first items _ _)
      | cons other others =>
          simp only [itemsText, List.append_assoc, List.append_cancel_left_eq] at heq
          -- the first elements are told apart by their texts, so behind them the texts are the same
          obtain ⟨rfl, hrest⟩ := happart item List.mem_cons_self (h' other List.mem_cons_self)
            (endsElement_itemsText items r) (endsElement_itemsText others r') heq
          obtain ⟨rfl, hr⟩ := ih (fun i hi => h i (List.mem_cons_of_mem _ hi))
            (fun i hi => happart i (List.mem_cons_of_mem _ hi))
            (fun i hi => h' i (List.mem_cons_of_mem _ hi)) false hrest
          exact ⟨rfl, hr⟩

theorem endsElement_fieldsText (fields : List (String × Value)) (r : List Char) :
    endsElement (fieldsText false fields ++ ' ' :: '\x7d' :: r) = true := by
  cases fields with
  | nil => simp [fieldsText, endsElement, isSeparator, Text.isBlank]
  | cons field fields => simp [fieldsText, endsElement, isSeparator]

/-- Rows of fields are told apart if their values are: as many fields, with the same labels. A row that is
    the first in its record is not empty. -/
theorem fieldsText_append_inj {fields others : List (String × Value)}
    (happart : ∀ field ∈ fields, field.2.IsToldApart)
    (h' : ∀ field ∈ others, field.2.IsUnambiguous) {first : Bool}
    (hfirst : first = true → fields ≠ [] ∧ others ≠ []) {r r' : List Char}
    (heq : fieldsText first fields ++ ' ' :: '\x7d' :: r =
      fieldsText first others ++ ' ' :: '\x7d' :: r') :
    fields = others ∧ r = r' := by
  induction fields generalizing others first with
  | nil =>
      -- a record that starts here has fields
      obtain rfl : first = false := by
        by_contra htrue
        exact (hfirst (by simpa using htrue)).1 rfl
      cases others with
      | nil => simpa [fieldsText] using heq
      | cons other others => simp [fieldsText] at heq
  | cons field fields ih =>
      obtain ⟨label, value⟩ := field
      cases others with
      | nil =>
          obtain rfl : first = false := by
            by_contra htrue
            exact (hfirst (by simpa using htrue)).2 rfl
          simp [fieldsText] at heq
      | cons other others =>
          obtain ⟨label', value'⟩ := other
          simp only [fieldsText, List.append_assoc, List.cons_append, List.append_cancel_left_eq] at heq
          obtain ⟨hlabel, hvalue⟩ := labelText_append_inj heq
          rw [List.cons.injEq] at hvalue
          obtain ⟨rfl, hrest⟩ := happart _ List.mem_cons_self (h' _ List.mem_cons_self)
            (endsElement_fieldsText fields r) (endsElement_fieldsText others r') hvalue.2
          obtain ⟨rfl, hr⟩ := ih (fun f hf => happart f (List.mem_cons_of_mem _ hf))
            (fun f hf => h' f (List.mem_cons_of_mem _ hf)) (by simp) hrest
          rw [String.toList_inj] at hlabel
          exact ⟨by rw [hlabel], hr⟩

/-! ## Values -/

theorem IsUnambiguous.isToldApart {v : Value} (h : v.IsUnambiguous) : v.IsToldApart := by
  induction h with
  | @scalar leaf hleaf =>
      intro w hw r r' hr hr' heq
      rw [literalText] at heq
      cases hw with
      | scalar hother =>
          rw [literalText] at heq
          obtain ⟨rfl, hrest⟩ := leaf_append_inj hleaf hother hr hr' heq
          exact ⟨rfl, hrest⟩
      | sequence _ =>
          rw [literalText] at heq
          exact absurd heq (leaf_append_ne hleaf hr (.inl rfl) _)
      | @record fields _ =>
          cases fields <;> rw [literalText] at heq <;>
            exact absurd heq (leaf_append_ne hleaf hr (.inr rfl) _)
  | @sequence items hitems ih =>
      intro w hw r r' hr hr' heq
      rw [literalText] at heq
      cases hw with
      | scalar hother =>
          rw [literalText] at heq
          exact absurd heq.symm (leaf_append_ne hother hr' (.inl rfl) _)
      | @sequence others hothers =>
          rw [literalText] at heq
          simp only [List.cons_append, List.append_assoc, List.nil_append, List.cons.injEq,
            true_and] at heq
          obtain ⟨rfl, hrest⟩ := itemsText_append_inj hitems ih hothers true heq
          exact ⟨rfl, hrest⟩
      | @record fields _ => cases fields <;> simp [literalText] at heq
  | @record fields _ ih =>
      intro w hw r r' hr hr' heq
      cases hw with
      | scalar hother =>
          cases fields <;> rw [literalText, literalText] at heq <;>
            exact absurd heq.symm (leaf_append_ne hother hr' (.inr rfl) _)
      | sequence _ => cases fields <;> simp [literalText] at heq
      | @record others hothers =>
          -- the record without fields has a form of its own, without blanks
          cases fields with
          | nil =>
              cases others with
              | nil => simpa [literalText] using heq
              | cons other others => simp [literalText] at heq
          | cons field fields =>
              cases others with
              | nil => simp [literalText] at heq
              | cons other others =>
                  simp only [literalText, List.cons_append, List.append_assoc, List.nil_append,
                    List.cons.injEq, true_and] at heq
                  obtain ⟨hfields, hrest⟩ := fieldsText_append_inj ih hothers (by simp) heq
                  exact ⟨by rw [hfields], hrest⟩

/-- Values of any nesting have the same literal only if they are the same: sequences, records with any
    labels, and all leaves but finite numbers of the binary format and bare words that read as something
    else. -/
theorem literal_inj {v w : Value} (hv : v.IsUnambiguous) (hw : w.IsUnambiguous) :
    v.literal = w.literal ↔ v = w := by
  refine ⟨fun h => ?_, fun h => by rw [h]⟩
  -- a comma behind both literals makes them ones that an element may end before
  have htext : v.literalText ++ [','] = w.literalText ++ [','] := by rw [String.ofList_inj.1 h]
  exact (hv.isToldApart hw rfl rfl htext).1

/-- A text that holds what stands between two fields is told apart from two fields, in records with an
    empty label and with one that comes twice. -/
theorem literal_ne_of_text_like_fields :
    (record [("a", .sequence [atom "null"]), ("", .scalar (.str "\", b: 1")),
        ("a", .record [])]).literal ≠
      (record [("a", .sequence [atom "null"]), ("", .scalar (.str "\\")), ("b", .scalar (.int 1)),
        ("a", .record [])]).literal := by
  have hword : (Value.sequence [atom "null"]).IsUnambiguous := by
    refine .sequence fun item hitem => ?_
    rw [List.mem_singleton.1 hitem]
    exact .scalar
      ⟨⟨'n', ['u', 'l', 'l'], rfl, by decide +kernel, List.all_eq_true.1 (by decide +kernel)⟩, by decide⟩
  have hempty : (record []).IsUnambiguous := .record (by simp)
  rw [Ne, literal_inj]
  · simp
  · refine .record fun field hfield => ?_
    simp only [List.mem_cons, List.not_mem_nil, or_false] at hfield
    rcases hfield with rfl | rfl | rfl
    · exact hword
    · exact .scalar trivial
    · exact hempty
  · refine .record fun field hfield => ?_
    simp only [List.mem_cons, List.not_mem_nil, or_false] at hfield
    rcases hfield with rfl | rfl | rfl | rfl
    · exact hword
    · exact .scalar trivial
    · exact .scalar trivial
    · exact hempty

end Value

end CodeBlock
