import CodeBlock.Proofs.Listing.Numbers
import CodeBlock.Proofs.Listing.Texts

set_option autoImplicit false

/-! # Reading listings

The reader accepts exactly the listings of the grammar, with the values that the grammar gives them. Each
reader is matched with its rule in both directions: completeness says that a derivation is read off the
front of any text in which an element may end behind it, and soundness that whatever is read has a
derivation. The levels of the grammar are those the reader counts down, and the fuel that the reader is
given is always enough. -/

namespace CodeBlock.Listing

/-! ## Where elements begin -/

/-- What an element may start with is neither a separator nor a closing bracket. -/
def startsElement (c : Char) : Bool := !isSeparator c && c != ']'

/-- A character that no word may hold, nor a digit, tells where an element does not start. -/
theorem startsElement_of_isWordStart {c : Char} (h : isWordStart c = true) :
    startsElement c = true := by
  have hword := isWordChar_of_isWordStart h
  by_contra hstart
  have hends : endsElement [c] = true := by
    simp only [startsElement, Bool.and_eq_true, Bool.not_eq_true', bne_iff_ne, not_and] at hstart
    simp only [endsElement, Bool.or_eq_true, beq_iff_eq]
    by_cases hc : c = ']'
    · exact .inl hc
    · exact .inr (by simpa using fun hs => hstart hs hc)
  rw [(head_of_endsElement hends rfl).1] at hword
  exact absurd hword (by simp)

theorem startsElement_of_isDigit {c : Char} (h : c.isDigit = true) : startsElement c = true := by
  refine Text.forall_of_isDigit (P := fun c => startsElement c = true) ?_ h
  intro n hlow hhigh
  interval_cases n <;> decide

theorem LeafMeans.head {s : List Char} {leaf : Scalar} (h : LeafMeans s leaf) :
    ∃ c rest, s = c :: rest ∧ startsElement c = true ∧ c ≠ '[' := by
  cases h with
  | @text quote body text hquote _ =>
      refine ⟨quote, body ++ [quote], rfl, ?_⟩
      simp only [quotes, List.mem_cons, List.not_mem_nil, or_false] at hquote
      rcases hquote with rfl | rfl | rfl <;> decide
  | number h =>
      obtain ⟨sign, negative, c, after, rfl, hsign, hhead, -⟩ := readNumber_of_numberMeans h
      cases hsign with
      | none =>
          refine ⟨c, after, rfl, ?_⟩
          rcases hhead rfl with hc | rfl
          · exact ⟨startsElement_of_isDigit hc, by rintro rfl; simp at hc⟩
          · decide
      | plus => exact ⟨'+', c :: after, rfl, by decide⟩
      | minus => exact ⟨'-', c :: after, rfl, by decide⟩
  | word h =>
      obtain ⟨c, rest, rfl, hc, -⟩ := h.isWord
      refine ⟨c, rest, rfl, startsElement_of_isWordStart hc, ?_⟩
      rintro rfl
      exact absurd hc (by decide +kernel)

theorem ItemMeans.head {levels : Nat} {s : List Char} {value : Value} (h : ItemMeans levels s value) :
    ∃ c rest, s = c :: rest ∧ startsElement c = true := by
  rcases h with ⟨leaf, rfl, hleaf⟩ | hlisting
  · obtain ⟨c, rest, rfl, hc, -⟩ := hleaf.head
    exact ⟨c, rest, rfl, hc⟩
  · cases levels with
    | zero => exact absurd hlisting (by simp [ListingMeans])
    | succ levels =>
        obtain ⟨inner, items, rfl, -, -⟩ := hlisting
        exact ⟨'[', inner ++ [']'], rfl, by decide⟩

theorem ItemMeans.listingMeans {levels : Nat} {s : List Char} {items : List Value}
    (h : ItemMeans levels s (.sequence items)) : ListingMeans levels s (.sequence items) := by
  rcases h with ⟨leaf, hleaf, -⟩ | hlisting
  · exact absurd hleaf (by simp)
  · exact hlisting

/-! ## Leaves -/

theorem quote_iff (c : Char) : ((c = '"' ∨ c = '\'') ∨ c = '\x60') ↔ c ∈ quotes := by
  simp [quotes, or_assoc]

theorem readElement_of_leafMeans {s rest : List Char} {leaf : Scalar} (h : LeafMeans s leaf)
    (hrest : endsElement rest = true) (levels fuel : Nat) :
    readElement levels (fuel + 1) (s ++ rest) = some (.scalar leaf, rest) := by
  cases h with
  | @text quote body text hquote hbody =>
      have hslash : quote ≠ '\\' := by
        rintro rfl
        exact absurd hquote (by decide)
      have hlist : quote ≠ '[' := by
        rintro rfl
        exact absurd hquote (by decide)
      have hfuel : body.length < (body ++ quote :: rest).length + 1 := by
        rw [List.length_append]
        omega
      have hread := readText_of_isBody hslash hbody rest [] hfuel
      have hq := (quote_iff quote).2 hquote
      simp only [List.cons_append, List.append_assoc, List.nil_append, readElement, if_neg hlist,
        Bool.or_eq_true, decide_eq_true_eq]
      rw [if_pos hq, hread]
      simp
  | number h =>
      obtain ⟨sign, negative, c, after, rfl, hsign, hhead, hread⟩ := readNumber_of_numberMeans h
      have hnumber := hread rest hrest
      simp only [List.cons_append] at hnumber
      cases hsign with
      | none =>
          have hc := hhead rfl
          -- neither a digit nor a point opens anything else
          have hfirst : c ≠ '[' ∧ c ≠ '"' ∧ c ≠ '\'' ∧ c ≠ '\x60' ∧ c ≠ '-' ∧ c ≠ '+' := by
            refine ⟨?_, ?_, ?_, ?_, ?_, ?_⟩ <;> rintro rfl <;> simp at hc
          simp [readElement, hfirst, hc, hnumber]
      | plus => simp [readElement, hnumber]
      | minus => simp [readElement, hnumber]
  | word h =>
      obtain ⟨c, after, hs, hc, -⟩ := h.isWord
      have hspan := Text.span_append h.isWord.isWordChar fun d hd => (head_of_endsElement hrest hd).1
      have hvalue := wordValue_of_wordMeans h
      -- a word starts with a letter, so it is not taken for a number
      have hdigit : c.isDigit = false := by
        by_contra hdigit
        rw [Bool.not_eq_false] at hdigit
        have hletter := Text.isAlphabetic_of_isDigit hdigit
        simp only [isWordStart, hletter, Bool.false_or, Bool.or_eq_true, beq_iff_eq] at hc
        rcases hc with rfl | rfl <;> simp at hdigit
      have hfirst : c ≠ '[' ∧ c ≠ '"' ∧ c ≠ '\'' ∧ c ≠ '\x60' ∧ c ≠ '-' ∧ c ≠ '+' ∧ c ≠ '.' := by
        refine ⟨?_, ?_, ?_, ?_, ?_, ?_, ?_⟩ <;> rintro rfl <;> exact absurd hc (by decide +kernel)
      subst hs
      simp only [List.cons_append] at hspan ⊢
      simp only [readElement, hfirst, hdigit, hc, hspan, hvalue]
      simp

theorem LeafMeans.readElement {s rest : List Char} {leaf : Scalar} (h : LeafMeans s leaf)
    (hrest : endsElement rest = true) (levels : Nat) {fuel : Nat} (hfuel : 2 * (s ++ rest).length ≤ fuel) :
    Listing.readElement levels fuel (s ++ rest) = some (.scalar leaf, rest) := by
  obtain ⟨c, after, rfl, -⟩ := h.head
  simp only [List.cons_append, List.length_cons] at hfuel
  obtain ⟨fuel, rfl⟩ := Nat.exists_eq_succ_of_ne_zero (n := fuel) (by omega)
  exact readElement_of_leafMeans h hrest levels fuel

theorem leafMeans_of_readElement {levels fuel : Nat} {c : Char} {s rest : List Char} {value : Value}
    (hc : c ≠ '[') (h : readElement levels (fuel + 1) (c :: s) = some (value, rest)) :
    ∃ item leaf, c :: s = item ++ rest ∧ value = .scalar leaf ∧ LeafMeans item leaf := by
  simp only [readElement, if_neg hc, Bool.or_eq_true, decide_eq_true_eq] at h
  -- a text, a number with a sign, one without, and a word
  split_ifs at h with hquote hsign hdigit hword
  · rw [Option.map_eq_some_iff] at h
    obtain ⟨⟨text, after⟩, htext, h⟩ := h
    rw [Prod.mk.injEq] at h
    obtain ⟨rfl, rfl⟩ := h
    obtain ⟨body, tail, rfl, rfl, hbody⟩ := isBody_of_readText htext
    refine ⟨c :: body ++ [c], _, by simp, rfl, .text ((quote_iff c).1 hquote) ?_⟩
    simpa using hbody
  · rw [Option.map_eq_some_iff] at h
    obtain ⟨⟨leaf, after⟩, hnumber, h⟩ := h
    rw [Prod.mk.injEq] at h
    obtain ⟨rfl, rfl⟩ := h
    have hs : IsSign [c] (c == '-') := by
      rcases hsign with rfl | rfl
      · exact .minus
      · exact .plus
    obtain ⟨body, rfl, hbody⟩ := numberMeans_of_readNumber hs (by simp) hnumber
    exact ⟨c :: body, leaf, rfl, rfl, .number hbody⟩
  · rw [Option.map_eq_some_iff] at h
    obtain ⟨⟨leaf, after⟩, hnumber, h⟩ := h
    rw [Prod.mk.injEq] at h
    obtain ⟨rfl, rfl⟩ := h
    obtain ⟨body, hs, hbody⟩ := numberMeans_of_readNumber .none (by simpa using hdigit) hnumber
    exact ⟨body, leaf, hs, rfl, .number hbody⟩
  · have hs := List.takeWhile_append_dropWhile (p := isWordChar) (l := c :: s)
    rw [List.span_eq_takeWhile_dropWhile] at h
    simp only [Option.some.injEq, Prod.mk.injEq] at h
    obtain ⟨rfl, rfl⟩ := h
    have hisWord : IsWord ((c :: s).takeWhile isWordChar) := by
      refine ⟨c, s.takeWhile isWordChar, ?_, hword, fun d => List.mem_takeWhile_imp⟩
      simp [isWordChar_of_isWordStart hword]
    exact ⟨_, _, hs.symm, rfl, .word (wordMeans_wordValue hisWord)⟩

/-! ## Rows of elements -/

theorem isGap_nil : IsGap [] := by simp [IsGap]

/-- What follows an element up to the closing bracket is such that the element may end. -/
theorem ItemsMean.endsElement {Item : List Char → Value → Prop} {inner : List Char}
    {items : List Value} (h : ItemsMean Item false inner items) (rest : List Char) :
    endsElement (inner ++ ']' :: rest) = true := by
  have hgap : ∀ {gap : List Char} (after : List Char), IsGap gap → gap ≠ [] →
      Listing.endsElement (gap ++ after) = true := by
    intro gap after hgap hne
    cases gap with
    | nil => exact absurd rfl hne
    | cons c gap => simp [Listing.endsElement, hgap c List.mem_cons_self]
  cases h with
  | @nil _ _ hinner =>
      by_cases hne : inner = []
      · simp [hne, Listing.endsElement]
      · exact hgap _ hinner hne
  | @cons _ gap item tail _ _ hinner hne _ _ =>
      rw [List.append_assoc, List.append_assoc]
      exact hgap _ hinner (hne rfl)

/-- What is written element by element, with a gap before each and no empty one between two, is a row of what
    the elements stand for. -/
theorem itemsMean_row {α : Type} {Item : List Char → Value → Prop} {means : α → Value}
    {gap : Bool → List Char} {ending : List Char} (write : α → List Char) (row : Bool → List α → List Char)
    (hgap : ∀ first, IsGap (gap first)) (hne : gap false ≠ []) (hending : IsGap ending)
    (hnil : ∀ first, row first [] = [])
    (hcons : ∀ first x xs, row first (x :: xs) = gap first ++ write x ++ row false xs) {xs : List α}
    (hitems : ∀ x ∈ xs, Item (write x) (means x)) (first : Bool) :
    ItemsMean Item first (row first xs ++ ending) (xs.map means) := by
  induction xs generalizing first with
  | nil =>
      rw [hnil]
      exact .nil hending
  | cons x xs ih =>
      rw [List.forall_mem_cons] at hitems
      rw [hcons, List.append_assoc]
      refine .cons (hgap first) ?_ hitems.1 (ih hitems.2 false)
      rintro rfl
      exact hne

/-- Behind separators one element is read, and then the row goes on if the element may end there. -/
theorem readElements_gap {levels fuel : Nat} {gap item after : List Char} {c : Char} (hgap : IsGap gap)
    (hitem : item = c :: after) (hc : startsElement c = true) (rest : List Char) :
    readElements levels (fuel + 1) (gap ++ item ++ rest) =
      (readElement levels fuel (item ++ rest)).bind fun (value, rest) =>
        if endsElement rest then
          (readElements levels fuel rest).map fun (values, rest) => (value :: values, rest)
        else none := by
  subst hitem
  simp only [startsElement, Bool.and_eq_true, Bool.not_eq_true', bne_iff_ne] at hc
  have hdrop : (gap ++ c :: after ++ rest).dropWhile isSeparator = c :: after ++ rest := by
    rw [List.append_assoc, List.dropWhile_append_of_pos hgap, List.cons_append,
      List.dropWhile_cons_of_neg (by simp [hc.1])]
  rw [readElements, hdrop, List.cons_append]
  simp only [if_neg hc.2]
  cases readElement levels fuel (c :: (after ++ rest)) <;> rfl

theorem exists_fuel_of_row {gap item tail rest after : List Char} {c : Char} {fuel : Nat}
    (hitem : item = c :: after) (hfuel : 2 * (gap ++ item ++ tail ++ ']' :: rest).length < fuel) :
    ∃ left, fuel = left + 1 ∧ 2 * (item ++ (tail ++ ']' :: rest)).length ≤ left ∧
      2 * (tail ++ ']' :: rest).length < left := by
  obtain ⟨left, rfl⟩ := Nat.exists_eq_succ_of_ne_zero (Nat.ne_of_gt (Nat.zero_lt_of_lt hfuel))
  subst hitem
  simp only [List.length_append, List.length_cons] at hfuel
  refine ⟨left, rfl, ?_, ?_⟩ <;> simp only [List.length_append, List.length_cons] <;> omega

/-- A row of elements of the grammar is read up to its bracket, if each element is. -/
theorem readElements_of_itemsMean {levels : Nat}
    (hitem : ∀ {s rest : List Char} {value : Value} {fuel : Nat}, ItemMeans levels s value →
      endsElement rest = true → 2 * (s ++ rest).length ≤ fuel →
      readElement levels fuel (s ++ rest) = some (value, rest))
    {first : Bool} {inner : List Char} {items : List Value}
    (h : ItemsMean (ItemMeans levels) first inner items) (rest : List Char) {fuel : Nat}
    (hfuel : 2 * (inner ++ ']' :: rest).length < fuel) :
    readElements levels fuel (inner ++ ']' :: rest) = some (items, rest) := by
  induction h generalizing fuel with
  | @nil _ gap hgap =>
      obtain ⟨fuel, rfl⟩ := Nat.exists_eq_succ_of_ne_zero (Nat.ne_of_gt (Nat.zero_lt_of_lt hfuel))
      rw [readElements, List.dropWhile_append_of_pos hgap]
      simp [isSeparator, Text.isBlank]
  | @cons _ gap item tail value values hgap _ hvalue htail ih =>
      obtain ⟨c, after, hs, hc⟩ := hvalue.head
      obtain ⟨fuel, rfl, hfuel', hfuel''⟩ := exists_fuel_of_row hs hfuel
      -- the rest of the row starts with a separator or ends the row
      have hends := htail.endsElement rest
      have hread := hitem hvalue hends hfuel'
      rw [List.append_assoc (gap ++ item), readElements_gap hgap hs hc, hread]
      simp [hends, ih hfuel'']

theorem readElement_of_itemsMean {levels : Nat}
    (hitem : ∀ {s rest : List Char} {value : Value} {fuel : Nat}, ItemMeans levels s value →
      endsElement rest = true → 2 * (s ++ rest).length ≤ fuel →
      readElement levels fuel (s ++ rest) = some (value, rest))
    {s : List Char} {value : Value} (h : ListingMeans (levels + 1) s value) (rest : List Char)
    {fuel : Nat} (hfuel : 2 * (s ++ rest).length ≤ fuel) :
    readElement (levels + 1) fuel (s ++ rest) = some (value, rest) := by
  obtain ⟨inner, items, rfl, rfl, hitems⟩ := (listingMeans_succ _ _ _).1 h
  simp only [List.cons_append, List.append_assoc, List.nil_append, List.length_append,
    List.length_cons] at hfuel ⊢
  obtain ⟨fuel, rfl⟩ := Nat.exists_eq_succ_of_ne_zero (n := fuel) (by omega)
  have hfuel' : 2 * (inner ++ ']' :: rest).length < fuel := by
    simp only [List.length_append, List.length_cons]
    omega
  have hrows := readElements_of_itemsMean hitem hitems rest hfuel'
  simp [readElement, hrows]

theorem readElement_of_itemMeans {levels : Nat} {s rest : List Char} {value : Value} {fuel : Nat}
    (h : ItemMeans levels s value) (hrest : endsElement rest = true)
    (hfuel : 2 * (s ++ rest).length ≤ fuel) :
    readElement levels fuel (s ++ rest) = some (value, rest) := by
  induction levels generalizing s rest value fuel with
  | zero =>
      rcases h with ⟨leaf, rfl, hleaf⟩ | hlisting
      · exact hleaf.readElement hrest _ hfuel
      · exact absurd hlisting (by simp [ListingMeans])
  | succ levels ih =>
      rcases h with ⟨leaf, rfl, hleaf⟩ | hlisting
      · exact hleaf.readElement hrest _ hfuel
      · exact readElement_of_itemsMean ih hlisting rest hfuel

/-- A listing of the grammar is read, whatever comes after it. -/
theorem readElement_of_listingMeans {levels : Nat} {s : List Char} {value : Value}
    (h : ListingMeans levels s value) (rest : List Char) {fuel : Nat}
    (hfuel : 2 * (s ++ rest).length ≤ fuel) :
    readElement levels fuel (s ++ rest) = some (value, rest) := by
  cases levels with
  | zero => exact absurd h (by simp [ListingMeans])
  | succ levels => exact readElement_of_itemsMean readElement_of_itemMeans h rest hfuel

/-! ## Whatever is read has a derivation -/

/-- With so much fuel, each element that is read is one of the grammar. -/
def ElementsSound (fuel : Nat) : Prop :=
  ∀ {levels : Nat} {s rest : List Char} {value : Value},
    readElement levels fuel s = some (value, rest) → ∃ item, s = item ++ rest ∧ ItemMeans levels item value

/-- With so much fuel, each row of elements that is read is one of the grammar. -/
def RowsSound (fuel : Nat) : Prop :=
  ∀ {levels : Nat} {s rest : List Char} {items : List Value} (first : Bool),
    readElements levels fuel s = some (items, rest) → (first = false → endsElement s = true) →
    ∃ inner, s = inner ++ ']' :: rest ∧ ItemsMean (ItemMeans levels) first inner items

theorem elementsSound_succ {fuel : Nat} (hrows : RowsSound fuel) : ElementsSound (fuel + 1) := by
  intro levels s rest value h
  cases s with
  | nil => simp [readElement] at h
  | cons c s =>
      by_cases hc : c = '['
      · subst hc
        cases levels with
        | zero => simp [readElement] at h
        | succ levels =>
            simp only [readElement, if_pos] at h
            rw [Option.map_eq_some_iff] at h
            obtain ⟨⟨items, after⟩, hitems, h⟩ := h
            rw [Prod.mk.injEq] at h
            obtain ⟨rfl, rfl⟩ := h
            obtain ⟨inner, rfl, hinner⟩ := hrows true hitems (by simp)
            exact ⟨'[' :: inner ++ [']'], by simp,
              .inr ((listingMeans_succ _ _ _).2 ⟨inner, items, rfl, rfl, hinner⟩)⟩
      · obtain ⟨item, leaf, hs, rfl, hleaf⟩ := leafMeans_of_readElement hc h
        exact ⟨item, hs, .inl ⟨leaf, rfl, hleaf⟩⟩

theorem rowsSound_succ {fuel : Nat} (helements : ElementsSound fuel) (hrows : RowsSound fuel) :
    RowsSound (fuel + 1) := by
  intro levels s rest items first h hfirst
  have hs := List.takeWhile_append_dropWhile (p := isSeparator) (l := s)
  have hgap : IsGap (s.takeWhile isSeparator) := fun c => List.mem_takeWhile_imp
  simp only [readElements] at h
  split at h
  · exact absurd h (by simp)
  · rename_i c after hafter
    rw [hafter] at hs
    split_ifs at h with hclose
    · simp only [Option.some.injEq, Prod.mk.injEq] at h
      obtain ⟨rfl, rfl⟩ := h
      exact ⟨s.takeWhile isSeparator, by rw [← hclose, hs], .nil hgap⟩
    · split at h
      · exact absurd h (by simp)
      · rename_i value after' hvalue
        split_ifs at h with hends
        rw [Option.map_eq_some_iff] at h
        obtain ⟨⟨values, last⟩, hvalues, h⟩ := h
        rw [Prod.mk.injEq] at h
        obtain ⟨rfl, rfl⟩ := h
        obtain ⟨item, hitem, hmeans⟩ := helements hvalue
        obtain ⟨tail, rfl, htail⟩ := hrows false hvalues fun _ => hends
        refine ⟨s.takeWhile isSeparator ++ item ++ tail, ?_, .cons hgap ?_ hmeans htail⟩
        · rw [hitem] at hs
          simpa using hs.symm
        · -- Behind another element the text starts with a separator, since it does not close the row.
          intro hnotFirst hempty
          rw [hempty, List.nil_append] at hs
          have hstart := hfirst hnotFirst
          rw [← hs] at hstart
          simp only [endsElement, Bool.or_eq_true, beq_iff_eq] at hstart
          rcases hstart with hstart | hstart
          · exact hclose hstart
          · rw [← hs] at hempty
            simp [hstart] at hempty

/-- All that is read is of the grammar. -/
theorem sound (fuel : Nat) : ElementsSound fuel ∧ RowsSound fuel := by
  induction fuel with
  | zero =>
      constructor
      · intro levels s rest value h
        simp [readElement] at h
      · intro levels s rest items first h
        simp [readElements] at h
  | succ fuel ih => exact ⟨elementsSound_succ ih.2, rowsSound_succ ih.1 ih.2⟩

/-! ## The whole text -/

/-- A text that does not end in a blank is read exactly if it is a listing. -/
theorem ofText?_eq_some_iff {s : List Char} {value : Value} (hs : Text.trimEnd s = s) :
    ofText? s = some value ↔ ListingMeans maxLevels s value := by
  constructor
  · intro h
    unfold ofText? at h
    split at h
    · rename_i tail
      split at h
      · rename_i v rest hread
        split_ifs at h with hblank
        rw [Option.some.injEq] at h
        subst h
        obtain ⟨item, hitem, hmeans⟩ := (sound _).1 hread
        have hall : ∀ c ∈ rest, Text.isBlank c = true := by
          simpa [Text.trimStart] using hblank
        -- only blanks may follow, and a trimmed text has none at its end
        have hrest : rest = [] := by
          rw [hitem] at hs
          exact Text.eq_nil_of_trimEnd_append hs hall
        rw [hrest, List.append_nil] at hitem
        rw [hitem]
        -- a leaf does not start with a bracket
        rcases hmeans with ⟨leaf, -, hleaf⟩ | hlisting
        · obtain ⟨c, after, rfl, -, hc⟩ := hleaf.head
          rw [List.cons.injEq] at hitem
          exact absurd hitem.1.symm hc
        · exact hlisting
      · exact absurd h (by simp)
    · exact absurd h (by simp)
  · intro h
    have hfuel : 2 * (s ++ []).length ≤ 2 * s.length + 2 := by simp
    have hread := readElement_of_listingMeans h [] hfuel
    rw [List.append_nil] at hread
    obtain ⟨inner, items, rfl, -, -⟩ := (listingMeans_succ 511 _ _).1 h
    unfold ofText?
    simp only [List.cons_append] at hread ⊢
    rw [hread]
    simp [Text.trimStart]

end Listing

/-- What is decoded is a listing of the grammar between blanks. -/
theorem listingMeans_of_decode {output : String} {value : Value}
    (h : decode output = .structured value) :
    Listing.ListingMeans 512 (Text.trim output.toList) value := by
  unfold decode at h
  split at h
  · rename_i v hv
    rw [Decoded.structured.injEq] at h
    exact (Listing.ofText?_eq_some_iff (Text.trimEnd_trim _)).1 (h ▸ hv)
  · exact absurd h (by simp)

theorem decode_of_listingMeans {before s after : List Char} {value : Value}
    (hbefore : ∀ c ∈ before, Text.isBlank c = true) (hafter : ∀ c ∈ after, Text.isBlank c = true)
    (h : Listing.ListingMeans 512 s value) :
    decode (String.ofList (before ++ s ++ after)) = .structured value := by
  obtain ⟨inner, items, rfl, -, -⟩ := (Listing.listingMeans_succ 511 _ _).1 h
  have htrim : Text.trim (before ++ ('[' :: inner ++ [']']) ++ after) = '[' :: inner ++ [']'] :=
    Text.trim_between_blanks hbefore hafter (by decide) (by decide)
  have hread := (Listing.ofText?_eq_some_iff (by rw [← htrim, Text.trimEnd_trim])).2 h
  rw [decode, String.toList_ofList, htrim, hread]

/-- An output stands for a sequence exactly if it is a listing between blanks, nested no deeper than 512
    levels, and the sequence is the one that the grammar gives it; any other output stands for itself,
    with its blanks. -/
theorem decode_eq_structured_iff_listingMeans (output : String) :
    (∀ value, decode output = .structured value ↔
      Listing.ListingMeans 512 (Text.trim output.toList) value) ∧
    (decode output = .raw output ↔
      ∀ value, ¬ Listing.ListingMeans 512 (Text.trim output.toList) value) := by
  have hread : ∀ value, Listing.ofText? (Text.trim output.toList) = some value ↔
      Listing.ListingMeans 512 (Text.trim output.toList) value :=
    fun value => Listing.ofText?_eq_some_iff (Text.trimEnd_trim _)
  unfold decode
  split
  · rename_i v hv
    refine ⟨fun value => ?_, ?_⟩
    · rw [← hread value, hv, Option.some.injEq, Decoded.structured.injEq]
    · constructor
      · intro h
        exact absurd h (by simp)
      · intro h
        exact absurd ((hread v).1 hv) (h v)
  · rename_i hnone
    refine ⟨fun value => ?_, ?_⟩
    · rw [← hread value, hnone]
      simp
    · constructor
      · intro _ value hvalue
        rw [(hread value).2 hvalue] at hnone
        exact absurd hnone (by simp)
      · intro _
        rfl

example : (match decode "[ one, 'two', [3] ]\n" with
    | .structured (.sequence [.scalar (.atom word), .scalar (.str text), .sequence [.scalar (.int n)]]) =>
        some (word, text, n)
    | _ => none) = some ("one", "two", 3) := by
  decide +kernel

end CodeBlock
