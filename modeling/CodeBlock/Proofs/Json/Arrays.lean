import CodeBlock.Proofs.Json.Leaves
import CodeBlock.Proofs.Json.Readers
import CodeBlock.Proofs.Listing.Printing
import Mathlib

set_option autoImplicit false

/-! # JSON arrays are listings

An array of strings, whole numbers, truth values, `null` and further arrays is a listing with the same
value, in every layout and with every spelling of its strings that the reader of JSON takes. Only a pair
of escapes for one character is not: a listing with such a pair is no listing at all, so its text comes
back as it is (`decode_of_array`). The proof follows the rows of JSON, each step of which is what leads to an
element, the element and the rest of the row, and carries both outcomes along. -/

namespace CodeBlock.Json

open Listing (ItemMeans ItemsMean ListingMeans LeafMeans IsGap startsElement)

/-- JSON without objects and fractions, in which 64 bits hold each whole number. -/
inductive IsPlain : Json → Prop
  | null : IsPlain .null
  | bool {b : Bool} : IsPlain (.bool b)
  | integer {n : Int64} : IsPlain (.integer n.toInt)
  | string {text : String} : IsPlain (.string text)
  | array {items : List Json} : (∀ item ∈ items, IsPlain item) → IsPlain (.array items)

/-! ## Gaps -/

theorem isBlank_text {c : Char} (h : isBlank c = true) : Text.isBlank c = true := by
  simp only [isBlank, Bool.or_eq_true, beq_iff_eq] at h
  rcases h with ((rfl | rfl) | rfl) | rfl <;> decide

theorem IsBlanks.isGap {s : List Char} (h : IsBlanks s) : IsGap s := by
  intro c hc
  rw [Listing.isSeparator, isBlank_text (h c hc), Bool.or_true]

/-- What leads to an element separates it. -/
theorem IsLead.isGap {first : Bool} {lead : List Char} (h : IsLead first lead) : IsGap lead := by
  cases h with
  | first hgap => exact hgap.isGap
  | comma hbefore hafter =>
      exact List.forall_mem_append.2 ⟨hbefore.isGap, List.forall_mem_cons.2 ⟨by decide, hafter.isGap⟩⟩

/-- There is a comma between two elements. -/
theorem IsLead.ne_nil {lead : List Char} (h : IsLead false lead) : lead ≠ [] := by
  cases h with
  | comma _ _ => simp

theorem scans_of_isGap {gap : List Char} (h : IsGap gap) : Scans gap false :=
  scans_of_notMem fun hmem => absurd (h _ hmem) (by decide)

/-! ## Elements and rows on which the readers agree -/

/-- The reader of listings agrees on an element: without a pair it stands for this value, and with one it
    is refused, whatever follows. -/
def Agrees (levels : Nat) (item : List Char) (value : Value) : Prop :=
  (Scans item false ∧ ItemMeans levels item value) ∨
    (Scans item true ∧ (∃ c after, item = c :: after ∧ startsElement c = true) ∧
      ∀ rest fuel, 2 * (item ++ rest).length ≤ fuel →
        Listing.readElement levels fuel (item ++ rest) = none)

/-- It agrees on the elements of an array up to the bracket: without a pair they stand for these values,
    and with one none of them is read. -/
def RowAgrees (levels : Nat) (first : Bool) (inner : List Char) (values : List Value) : Prop :=
  (Scans inner false ∧ ItemsMean (ItemMeans levels) first inner values) ∨
    (Scans inner true ∧ (first = false → ∀ rest, Listing.endsElement (inner ++ rest) = true) ∧
      ∀ rest fuel, 2 * (inner ++ ']' :: rest).length < fuel →
        Listing.readElements levels fuel (inner ++ ']' :: rest) = none)

/-- A leaf without a backslash has no pair. -/
theorem agrees_of_leafMeans {levels : Nat} {s : List Char} {leaf : Scalar} (hs : '\\' ∉ s)
    (h : LeafMeans s leaf) : Agrees levels s (.scalar leaf) :=
  .inl ⟨scans_of_notMem hs, .inl ⟨leaf, rfl, h⟩⟩

theorem agrees_string {levels : Nat} {body : List Char} {text : String} (h : Spells body text.toList) :
    Agrees levels ('"' :: (body ++ ['"'])) (.scalar (.str text)) := by
  have hquote : Scans ['"'] false := scans_of_notMem (by decide)
  rcases h.isBody_or_pair with ⟨hscans, hbody⟩ | ⟨hscans, hrefused⟩
  · have hmeans : LeafMeans ('"' :: (body ++ ['"'])) (.str (String.ofList text.toList)) :=
      .text (by decide) hbody
    rw [String.ofList_toList] at hmeans
    exact .inl ⟨hquote.append (hscans.append hquote), .inl ⟨_, rfl, hmeans⟩⟩
  · refine .inr ⟨hquote.append (hscans.append hquote), ⟨'"', body ++ ['"'], rfl, by decide⟩, ?_⟩
    intro rest fuel _
    cases fuel with
    | zero => rfl
    | succ fuel => simp [Listing.readElement, hrefused]

/-- A whole number that 64 bits hold is the same in both formats. -/
theorem agrees_integer {levels : Nat} {sign digits : List Char} {negative : Bool} {n : Int64}
    (hsign : Listing.IsSign sign negative) (hdigits : Listing.IsDigits digits)
    (h : n.toInt = Listing.signed negative digits) :
    Agrees levels (sign ++ digits) (Value.ofJson (.integer n.toInt)) := by
  have hvalue : Value.ofInt n.toInt = .int n := by
    rw [Value.ofInt, Listing.int64?_eq_some_iff.2 rfl]
  have hslash : '\\' ∉ sign ++ digits := by
    rw [List.mem_append, not_or]
    refine ⟨?_, fun hmem => absurd (hdigits.2 _ hmem) (by decide)⟩
    cases hsign <;> decide
  rw [Value.ofJson, hvalue]
  exact agrees_of_leafMeans hslash (.number (.whole ⟨sign, negative, digits, rfl, hsign, hdigits, h⟩))

theorem agrees_array {levels : Nat} {inner : List Char} {values : List Value}
    (h : RowAgrees levels true inner values) :
    Agrees (levels + 1) ('[' :: inner ++ [']']) (.sequence values) := by
  have hopen : Scans ['['] false := scans_of_notMem (by decide)
  have hclose : Scans [']'] false := scans_of_notMem (by decide)
  rcases h with ⟨hscans, hmeans⟩ | ⟨hscans, -, hrefused⟩
  · exact .inl ⟨(hopen.append hscans).append hclose,
      .inr ((Listing.listingMeans_succ _ _ _).2 ⟨inner, values, rfl, rfl, hmeans⟩)⟩
  · refine .inr ⟨(hopen.append hscans).append hclose, ⟨'[', inner ++ [']'], rfl, by decide⟩, ?_⟩
    intro rest fuel hfuel
    simp only [List.cons_append, List.append_assoc, List.nil_append, List.length_cons] at hfuel ⊢
    obtain ⟨fuel, rfl⟩ := Nat.exists_eq_succ_of_ne_zero (n := fuel) (by omega)
    have hrow := hrefused rest fuel (by omega)
    simp [Listing.readElement, hrow]

theorem rowAgrees_cons {levels : Nat} {first : Bool} {gap item tail : List Char} {value : Value}
    {values : List Value} (hgap : IsGap gap) (hne : first = false → gap ≠ [])
    (hitem : Agrees levels item value) (htail : RowAgrees levels false tail values) :
    RowAgrees levels first (gap ++ item ++ tail) (value :: values) := by
  have hscans := scans_of_isGap hgap
  have hends : first = false → ∀ rest, Listing.endsElement (gap ++ item ++ tail ++ rest) = true := by
    intro hfirst rest
    obtain ⟨c, more, rfl⟩ := List.exists_cons_of_ne_nil (hne hfirst)
    simp [Listing.endsElement, hgap c List.mem_cons_self]
  rcases hitem with ⟨hscans', hmeans⟩ | ⟨hscans', ⟨c, after, hs, hc⟩, hrefused⟩
  · rcases htail with ⟨hscans'', hmeans'⟩ | ⟨hscans'', hends', hrefused⟩
    · exact .inl ⟨(hscans.append hscans').append hscans'', .cons hgap hne hmeans hmeans'⟩
    · -- the first element is read, and then the row is given up
      refine .inr ⟨(hscans.append hscans').append hscans'', hends, fun rest fuel hfuel => ?_⟩
      obtain ⟨c, after, hs, hc⟩ := hmeans.head
      obtain ⟨fuel, rfl, hfuel', hfuel''⟩ := Listing.exists_fuel_of_row hs hfuel
      have hread := Listing.readElement_of_itemMeans hmeans (hends' rfl (']' :: rest)) hfuel'
      rw [List.append_assoc (gap ++ item), Listing.readElements_gap hgap hs hc, hread]
      simp [hrefused rest fuel hfuel'']
  · -- the first element is refused, and what stands behind it does not matter
    have hpaired : ∀ {q : Bool}, Scans tail q → Scans (gap ++ item ++ tail) true := fun hscans'' => by
      simpa using (hscans.append hscans').append hscans''
    refine .inr ⟨htail.elim (fun h => hpaired h.1) fun h => hpaired h.1, hends, fun rest fuel hfuel => ?_⟩
    obtain ⟨fuel, rfl, hfuel', -⟩ := Listing.exists_fuel_of_row hs hfuel
    rw [List.append_assoc (gap ++ item), Listing.readElements_gap hgap hs hc, hrefused _ fuel hfuel']
    rfl

theorem Row.rowAgrees {levels : Nat} {first : Bool} {inner : List Char} {items : List Json}
    (h : Row (fun item j => j.IsPlain → Agrees levels item (Value.ofJson j)) first inner items)
    (hplain : ∀ item ∈ items, item.IsPlain) : RowAgrees levels first inner (Value.ofJsonItems items) := by
  induction h with
  | nil hgap => exact .inl ⟨scans_of_isGap hgap.isGap, .nil hgap.isGap⟩
  | cons hlead hitem _ ih =>
      rw [List.forall_mem_cons] at hplain
      rw [← List.append_assoc]
      refine rowAgrees_cons hlead.isGap ?_ (hitem hplain.1) (ih hplain.2)
      rintro rfl
      exact hlead.ne_nil

/-! ## All that is read -/

/-- A plain number is whole, so it has the same digits in both formats. -/
theorem agrees_number {levels : Nat} {positive : Bool} {sign number : List Char} {j : Json}
    (hsign : Listing.IsSign sign (!positive)) (h : ReadsNumber positive number j) (hplain : j.IsPlain) :
    Agrees levels (sign ++ number) (Value.ofJson j) := by
  have hread := h.reads endsValue_nil
  rw [List.append_nil] at hread
  rcases isDigits_of_readNumber hread with ⟨x, rfl⟩ | ⟨digits, i, hs, hdigits, hi, -, -, rfl⟩
  · cases hplain
  · rw [List.append_nil] at hs
    subst hs
    cases hplain
    exact agrees_integer hsign hdigits hi

/-- With as many levels as the reader of JSON may still open, the readers agree on plain values. -/
theorem isMeaning_agrees : IsMeaning fun depth item j =>
    j.IsPlain → ∀ ⦃levels⦄, depth ≤ levels + 1 → Agrees levels item (Value.ofJson j) where
  null _ _ _ := agrees_of_leafMeans (by decide) Listing.leafMeans_null
  yes _ _ _ := agrees_of_leafMeans (by decide) (Listing.leafMeans_bool true)
  no _ _ _ := agrees_of_leafMeans (by decide) (Listing.leafMeans_bool false)
  positive hnumber hplain _ _ := agrees_number .none hnumber hplain
  negative hnumber hplain _ _ := agrees_number .minus hnumber hplain
  string hbody _ _ _ := agrees_string hbody
  array hdeep hrow hplain levels hdepth := by
    cases hplain with
    | array hitems =>
        obtain ⟨levels, rfl⟩ := Nat.exists_eq_succ_of_ne_zero (n := levels) (by omega)
        exact agrees_array ((hrow.imp fun h hplain => h hplain (by omega)).rowAgrees hitems)
  object _ _ hplain := by cases hplain

/-! ## The whole text -/

theorem rowAgrees_of_ofText {s : List Char} {items : List Json} (h : ofText s = .ok (.array items))
    (hplain : (Json.array items).IsPlain) :
    ∃ before inner after, s = before ++ ('[' :: inner ++ [']']) ++ after ∧
      (∀ c ∈ before, isBlank c = true) ∧ (∀ c ∈ after, isBlank c = true) ∧
      RowAgrees 511 true inner (Value.ofJsonItems items) := by
  obtain ⟨⟨j, rest⟩, hread, hend⟩ := exists_of_bind_eq_ok h
  simp only [expectEnd] at hend
  split at hend
  case h_2 => cases hend
  rename_i hrest
  cases hend
  obtain ⟨before, after, rfl, hbefore, hvalue⟩ := valueRead_of_readValueFrom hread
  cases hplain with
  | array hitems =>
      have hnumber : ∀ {positive : Bool} {s : List Char},
          readNumber positive s ≠ .ok (.array items, rest) := by
        intro positive s h
        rcases isDigits_of_readNumber h with ⟨x, hx⟩ | ⟨digits, i, -, -, -, -, -, hx⟩ <;> cases hx
      cases hvalue with
      | negative h => exact absurd h hnumber
      | positive h => exact absurd h hnumber
      | array _ h =>
          rw [readItemsFrom_eq] at h
          obtain ⟨inner, hinner, rfl⟩ := exists_row (fun less _ => isMeaning_agrees.isFaithful less _) h
          have hdepth : maxDepth - 1 ≤ 511 + 1 := by decide
          exact ⟨before, inner, rest, by simp, hbefore, skipBlanks_eq_nil_iff.1 hrest,
            (hinner.imp fun h hplain => h hplain hdepth).rowAgrees hitems⟩

end CodeBlock.Json

namespace CodeBlock

/-- An array of plain values that the reader of JSON takes is decoded to its value, and if a string in it
    has a pair of escapes for one character, then to the text as it is. -/
theorem decode_of_array {text : String} {items : List Json}
    (h : Json.ofText text.toList = .ok (.array items)) (hplain : (Json.array items).IsPlain) :
    decode text =
      if Json.hasPair text.toList then .raw text
      else .structured (Value.ofJson (.array items)) := by
  obtain ⟨before, inner, after, htext, hbefore, hafter, hinner⟩ := Json.rowAgrees_of_ofText h hplain
  have hblanks : ∀ {s : List Char}, (∀ c ∈ s, Json.isBlank c = true) →
      Json.Scans s false ∧ ∀ c ∈ s, Text.isBlank c = true := by
    intro s hs
    refine ⟨Json.scans_of_notMem fun hmem => ?_, fun c hc => Json.isBlank_text (hs c hc)⟩
    exact absurd (hs _ hmem) (by decide)
  obtain ⟨hscans, hbefore⟩ := hblanks hbefore
  obtain ⟨hscans', hafter⟩ := hblanks hafter
  -- the blanks around the array have no part in a pair
  have hpair : ∀ {p : Bool}, Json.Scans ('[' :: inner ++ [']']) p → Json.hasPair text.toList = p := by
    intro p hitem
    have hall := ((hscans.append hitem).append hscans') []
    rw [List.append_nil, ← htext] at hall
    simpa [Json.hasPair] using hall
  rcases Json.agrees_array hinner with ⟨hitem, hmeans⟩ | ⟨hitem, -, hrefused⟩
  · -- without a pair, the text is a listing of the same elements
    have hdecode := decode_of_listingMeans hbefore hafter hmeans.listingMeans
    rw [← htext, String.ofList_toList] at hdecode
    rw [hdecode, hpair hitem, Value.ofJson]
    rfl
  · -- with one, the listing is given up and the text is left raw
    have htrim : Text.trim text.toList = '[' :: inner ++ [']'] := by
      rw [htext]
      exact Text.trim_between_blanks hbefore hafter (by decide) (by decide)
    have hread := hrefused [] (2 * ('[' :: inner ++ [']']).length + 2) (by simp)
    have hnone : Listing.ofText? (Text.trim text.toList) = none := by
      rw [htrim]
      simp only [List.append_nil, List.cons_append] at hread ⊢
      simp only [Listing.ofText?, Listing.maxLevels, hread]
    rw [decode, hnone, hpair hitem]
    rfl

/-- Escapes and blanks as JSON has them. -/
theorem decode_of_array_spelled :
    decode " [\"a\\/\\u00e9\", [true,null],\n-12 ]" =
      .structured (.sequence [.scalar (.str "a/é"),
        .sequence [.scalar (.bool true), .atom "null"], .scalar (.int (-12))]) := by
  have hread : Json.ofText " [\"a\\/\\u00e9\", [true,null],\n-12 ]".toList =
      .ok (.array [.string "a/é", .array [.bool true, .null], .integer (Int64.toInt (-12))]) := by cbv
  have hplain : (Json.array
      [.string "a/é", .array [.bool true, .null], .integer (Int64.toInt (-12))]).IsPlain := by
    refine .array ?_
    simp only [List.forall_mem_cons, List.not_mem_nil, false_implies, implies_true, and_true]
    refine ⟨.string, .array ?_, .integer⟩
    simp only [List.forall_mem_cons, List.not_mem_nil, false_implies, implies_true, and_true]
    exact ⟨.bool, .null⟩
  rw [decode_of_array hread hplain, if_neg (by decide)]
  rfl

/-- A pair of escapes is one character for JSON, and for listings it is no text. -/
theorem decode_ne_of_pair :
    Json.ofText "[\"\\ud83d\\ude00\"]".toList = .ok (.array [.string "😀"]) ∧
    (Json.array [.string "😀"]).IsPlain ∧
    decode "[\"\\ud83d\\ude00\"]" ≠ .structured (Value.ofJson (.array [.string "😀"])) := by
  refine ⟨by cbv, .array fun item hitem => ?_, ?_⟩
  · rw [List.mem_singleton.1 hitem]
    exact .string
  · have hnone : (Listing.ofText? (Text.trim "[\"\\ud83d\\ude00\"]".toList)).isNone = true := by
      decide +kernel
    rw [Option.isNone_iff_eq_none] at hnone
    rw [decode, hnone]
    simp

end CodeBlock
