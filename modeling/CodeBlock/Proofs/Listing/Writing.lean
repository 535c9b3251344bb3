import CodeBlock.Proofs.Listing.Reading
import CodeBlock.Proofs.Number.ReadBack
import CodeBlock.Value.Literal

set_option autoImplicit false

/-! # Literals are listings

The literal of a sequence is a listing, and the grammar says what it stands for: the sequence itself,
but for numbers that are written like whole ones. Each kind of leaf is written as a leaf of the grammar,
and the elements of a sequence with a comma and a blank between them. The reader takes every listing of
the grammar, so a literal is read back (`decode_literal`). -/

namespace CodeBlock

namespace Listing

/-! ## Texts -/

/-- A character of a literal stands for itself inside the double quotes. -/
theorem isBody_escapeChar_append (c : Char) {body text : List Char} (h : IsBody '"' body text) :
    IsBody '"' (Json.escapeChar c ++ body) (c :: text) := by
  unfold Json.escapeChar
  split
  · exact .escape (.itself (by decide) (by decide) (by decide)) h
  · exact .escape (.itself (by decide) (by decide) (by decide)) h
  · exact .escape (.named (by decide)) h
  · exact .escape (.named (by decide)) h
  · exact .escape (.named (by decide)) h
  · exact .escape (.named (by decide)) h
  · exact .escape (.named (by decide)) h
  · rename_i hquote hbackslash _ _ _ _ _
    split_ifs with hcontrol
    · -- control characters have two digits, which go behind two zeros
      have hrow : hexNumber? ['0', '0', Json.hexDigit (c.toNat / 16), Json.hexDigit c.toNat] =
          some c.toNat :=
        Text.forall_of_toNat_lt
          (P := fun c => hexNumber? ['0', '0', Json.hexDigit (c.toNat / 16), Json.hexDigit c.toNat] =
            some c.toNat) (by decide) c hcontrol
      exact .escape (.code4 rfl (isHexRow_of_hexNumber? hrow)) h
    · exact .plain hquote hbackslash h

/-- A text stands for itself inside the double quotes. -/
theorem isBody_flatMap_escapeChar (s : List Char) : IsBody '"' (s.flatMap Json.escapeChar) s := by
  induction s with
  | nil => exact .nil
  | cons c s ih => exact isBody_escapeChar_append c ih

theorem leafMeans_quoted (s : String) : LeafMeans (Json.quoted s.toList) (.str s) := by
  have hleaf := LeafMeans.text (by decide) (isBody_flatMap_escapeChar s.toList)
  rwa [String.ofList_toList] at hleaf

/-- No character is written with a line end. -/
theorem newline_notMem_escapeChar (c : Char) : '\n' ∉ Json.escapeChar c := by
  unfold Json.escapeChar
  split
  case h_8 hnewline _ _ =>
      split_ifs with hcontrol
      · exact Text.forall_of_toNat_lt
          (P := fun c => '\n' ∉
            ['\\', 'u', '0', '0', Json.hexDigit (c.toNat / 16), Json.hexDigit c.toNat])
          (by decide) c hcontrol
      · simpa [eq_comm] using hnewline
  all_goals decide

theorem newline_notMem_quoted (s : List Char) : '\n' ∉ Json.quoted s := by
  simp [Json.quoted, newline_notMem_escapeChar]

/-! ## Whole numbers -/

theorem isDigits_toDigits (n : Nat) : IsDigits (Nat.toDigits 10 n) :=
  ⟨Nat.toDigits_ne_nil, fun _ => Nat.isDigit_of_mem_toDigits (by decide) (by decide)⟩

theorem isSign_minus (negative : Bool) : IsSign (if negative then ['-'] else []) negative := by
  cases negative
  · exact .none
  · exact .minus

/-- A whole number is written as the text of it. -/
theorem wholeMeans_integerText (i : Int64) : WholeMeans (Json.integerText i.toInt) i := by
  refine ⟨_, decide (i.toInt < 0), _, rfl, ?_, isDigits_toDigits _, ?_⟩
  · simpa using isSign_minus (decide (i.toInt < 0))
  · have hvalue : Decimal.valueOfDigits (Nat.toDigits 10 i.toInt.natAbs) = i.toInt.natAbs :=
      Nat.ofDigitChars_ten_toDigits
    rw [hvalue]
    by_cases hnegative : i.toInt < 0
    · simp only [hnegative, decide_true, if_true]
      omega
    · simp only [hnegative, decide_false, Bool.false_eq_true, if_false]
      omega

/-- The 64-bit whole number that a text is. -/
def wholeText? (s : List Char) : Option Int64 := whole? (splitSign s).1 (splitSign s).2

theorem wholeText?_eq_some_iff {s : List Char} {i : Int64} :
    wholeText? s = some i ↔ WholeMeans s i := by
  constructor
  · intro h
    obtain ⟨sign, hs, hsign⟩ := exists_sign s
    unfold wholeText? whole? at h
    split_ifs at h with hdigits
    exact ⟨sign, _, _, hs, hsign, isDigits_iff.2 (by simpa using hdigits), int64?_eq_some_iff.1 h⟩
  · rintro ⟨sign, negative, digits, rfl, hsign, hdigits, hi⟩
    rw [wholeText?, splitSign_append hsign fun c hc => hdigits.head_ne hc]
    exact (whole?_eq_some_iff hsign fun c hc => hdigits.head_ne hc).2
      ⟨sign, negative, digits, rfl, hsign, hdigits, hi⟩

/-! ## Decimal numbers -/

theorem isDigit_of_mem_replicate_zero {k : Nat} {c : Char} (h : c ∈ List.replicate k '0') :
    c.isDigit = true := by
  rw [List.eq_of_mem_replicate h]
  rfl

/-- Zeros behind the digits of a number are powers of ten. -/
theorem isDigits_toDigits_append (n k : Nat) :
    IsDigits (Nat.toDigits 10 n ++ List.replicate k '0') ∧
      Decimal.valueOfDigits (Nat.toDigits 10 n ++ List.replicate k '0') = n * 10 ^ k := by
  refine ⟨⟨by simp [(isDigits_toDigits n).1], ?_⟩, ?_⟩
  · exact List.forall_mem_append.2 ⟨(isDigits_toDigits n).2, fun c => isDigit_of_mem_replicate_zero⟩
  · simp [Decimal.valueOfDigits, Nat.ofDigitChars_append, Nat.mul_comm]

/-- Zeros before them say nothing. -/
theorem isDigits_append_toDigits (n k : Nat) :
    IsDigits (List.replicate k '0' ++ Nat.toDigits 10 n) ∧
      Decimal.valueOfDigits (List.replicate k '0' ++ Nat.toDigits 10 n) = n := by
  refine ⟨⟨by simp [(isDigits_toDigits n).1], ?_⟩, ?_⟩
  · exact List.forall_mem_append.2 ⟨fun c => isDigit_of_mem_replicate_zero, (isDigits_toDigits n).2⟩
  · simp [Decimal.valueOfDigits, Nat.ofDigitChars_append]

/-- A number with no places is written with as many zeros as it has powers of ten, and perhaps with one more
    behind a point. -/
theorem isMantissa_plainText_of_nonneg (style : NumberStyle) (digits : Nat) {exponent : Int}
    (hsign : 0 ≤ exponent) :
    ∃ n places, IsMantissa (style.plainText digits exponent) n places ∧
      ∀ negative, Decimal.toBinary64 ⟨negative, n, -places⟩ =
        Decimal.toBinary64 ⟨negative, digits, exponent⟩ := by
  unfold NumberStyle.plainText
  by_cases hpoint : style.wholePoint = true
  · -- the zero behind the point is one more digit, and one place
    obtain ⟨htext, hvalue⟩ := isDigits_toDigits_append digits (exponent.toNat + 1)
    rw [List.replicate_succ', ← List.append_assoc] at htext hvalue
    have hpointed := IsMantissa.pointed htext
    rw [hvalue] at hpointed
    refine ⟨_, _, by simpa [hsign, hpoint] using hpointed, fun negative => ?_⟩
    rw [Decimal.toBinary64_mul_pow_ten]
    congr 2
    omega
  · obtain ⟨htext, hvalue⟩ := isDigits_toDigits_append digits exponent.toNat
    refine ⟨_, 0, by simpa [hsign, hpoint] using IsMantissa.whole htext, fun negative => ?_⟩
    rw [hvalue, Decimal.toBinary64_mul_pow_ten]
    congr 2
    omega

/-- A number with places is written with a point before them, and with zeros before it if it has too few
    digits. -/
theorem isMantissa_plainText_of_neg (style : NumberStyle) (digits : Nat) {exponent : Int}
    (hsign : ¬ 0 ≤ exponent) :
    ∃ n places, IsMantissa (style.plainText digits exponent) n places ∧
      ∀ negative, Decimal.toBinary64 ⟨negative, n, -places⟩ =
        Decimal.toBinary64 ⟨negative, digits, exponent⟩ := by
  have hplaces : ((-exponent).toNat : Int) = -exponent := by omega
  unfold NumberStyle.plainText
  simp only [if_neg hsign]
  generalize (-exponent).toNat = places at hplaces
  obtain ⟨htext, hvalue⟩ :=
    isDigits_append_toDigits digits (places + 1 - (Nat.toDigits 10 digits).length)
  -- with the zeros in front there is a digit before the point
  have hlength : places + 1 ≤ (List.replicate (places + 1 - (Nat.toDigits 10 digits).length) '0' ++
      Nat.toDigits 10 digits).length := by
    rw [List.length_append, List.length_replicate]
    omega
  generalize List.replicate (places + 1 - (Nat.toDigits 10 digits).length) '0' ++
    Nat.toDigits 10 digits = padded at *
  rw [← List.take_append_drop (padded.length - places) padded] at htext
  refine ⟨_, _, .pointed htext, fun negative => ?_⟩
  rw [List.take_append_drop, hvalue, List.length_drop]
  congr 2
  omega

theorem isMantissa_plainText (style : NumberStyle) (digits : Nat) (exponent : Int) :
    ∃ n places, IsMantissa (style.plainText digits exponent) n places ∧
      ∀ negative, Decimal.toBinary64 ⟨negative, n, -places⟩ =
        Decimal.toBinary64 ⟨negative, digits, exponent⟩ := by
  by_cases hsign : 0 ≤ exponent
  · exact isMantissa_plainText_of_nonneg style digits hsign
  · exact isMantissa_plainText_of_neg style digits hsign

/-- A finite number is written as a number, and read back as the whole number that its text is or as
    itself. -/
theorem numberMeans_numberText (x : Binary64.Finite) :
    ∃ sign negative mantissa n places, Scalar.numberText (.finite x) = sign ++ mantissa ∧
      IsSign sign negative ∧ IsMantissa mantissa n places ∧
      Decimal.toBinary64 ⟨negative, n, -places⟩ = .finite x := by
  have hback := x.toBinary64_shortest Scalar.numberStyle.tie
  generalize hd : x.shortest Scalar.numberStyle.tie = d at hback
  obtain ⟨negative, digits, exponent⟩ := d
  obtain ⟨n, places, hmantissa, hvalue⟩ := isMantissa_plainText Scalar.numberStyle digits exponent
  refine ⟨if negative then ['-'] else [], negative, _, n, places, ?_, isSign_minus negative, hmantissa, ?_⟩
  · simp only [Scalar.numberText, NumberStyle.write, hd]
    rfl
  · rw [hvalue, hback]

/-! ## Characters of numbers -/

/-- Whether `c` may stand in a number without a power of ten. -/
def isNumeral (c : Char) : Bool := c.isDigit || c == '.' || c == '+' || c == '-'

theorem isNumeral_of_isDigit {c : Char} (h : c.isDigit = true) : isNumeral c = true := by
  simp [isNumeral, h]

theorem IsSign.isNumeral {s : List Char} {negative : Bool} (h : IsSign s negative) :
    ∀ c ∈ s, isNumeral c = true := by
  cases h <;> simp [Listing.isNumeral]

theorem IsMantissa.isNumeral {s : List Char} {n places : Nat} (h : IsMantissa s n places) :
    ∀ c ∈ s, isNumeral c = true := by
  intro c hc
  cases h with
  | whole hdigits => exact isNumeral_of_isDigit (hdigits.2 c hc)
  | @pointed whole fraction hdigits =>
      rw [List.mem_append, List.mem_cons, or_left_comm, ← List.mem_append] at hc
      rcases hc with rfl | hc
      · rfl
      · exact isNumeral_of_isDigit (hdigits.2 c hc)

theorem WholeMeans.isNumeral {s : List Char} {i : Int64} (h : WholeMeans s i) :
    ∀ c ∈ s, isNumeral c = true := by
  obtain ⟨sign, negative, digits, rfl, hsign, hdigits, -⟩ := h
  exact List.forall_mem_append.2
    ⟨hsign.isNumeral, fun c hc => isNumeral_of_isDigit (hdigits.2 c hc)⟩

/-- Any other character stands in no number. -/
theorem notMem_of_isNumeral {s : List Char} (h : ∀ c ∈ s, isNumeral c = true) {c : Char}
    (hc : isNumeral c = false) : c ∉ s := by
  intro hmem
  rw [h c hmem] at hc
  exact absurd hc (by simp)

end Listing

namespace Scalar

/-! ## Leaves -/

/-- What is read back: a finite number whose text is a whole number of 64 bits is that number, and any
    other leaf is itself. -/
def settled : Scalar → Scalar
  | .float (.finite x) =>
      match Listing.wholeText? (Scalar.float (.finite x)).literalText with
      | some i => .int i
      | none => .float (.finite x)
  | leaf => leaf

/-- A bare word has to read as one; other leaves are always readable. -/
def IsReadable : Scalar → Prop
  | .atom word => Listing.IsWord word.toList ∧ word.toList ∉ Listing.meaningfulWords
  | _ => True

end Scalar

namespace Listing

/-- A finite number is written as a leaf that stands for what is read back. -/
theorem leafMeans_finite (x : Binary64.Finite) :
    LeafMeans (Scalar.float (.finite x)).literalText (Scalar.float (.finite x)).settled := by
  obtain ⟨sign, negative, mantissa, n, places, htext, hsign, hmantissa, hvalue⟩ :=
    numberMeans_numberText x
  have hliteral : (Scalar.float (.finite x)).literalText = sign ++ mantissa := by
    rw [Scalar.literalText, Scalar.plainText, htext, Text.replaceChar_eq_self]
    exact notMem_of_isNumeral (List.forall_mem_append.2 ⟨hsign.isNumeral, hmantissa.isNumeral⟩) (by decide)
  rw [Scalar.settled, hliteral]
  refine .number ?_
  cases hwhole : wholeText? (sign ++ mantissa) with
  | some i => exact .whole (wholeText?_eq_some_iff.1 hwhole)
  | none =>
      have hdecimal := NumberMeans.decimal hsign hmantissa .none fun i hi => by
        rw [List.append_nil, ← wholeText?_eq_some_iff, hwhole] at hi
        exact absurd hi (by simp)
      rwa [List.append_nil, Int.zero_sub, hvalue] at hdecimal

theorem leafMeans_literalText {leaf : Scalar} (h : leaf.IsReadable) :
    LeafMeans leaf.literalText leaf.settled := by
  cases leaf with
  | str s =>
      have hline := Text.replaceChar_eq_self (newline_notMem_quoted s.toList) ['\\', 'n']
      rw [Scalar.literalText, Scalar.plainText, hline]
      exact leafMeans_quoted s
  | int i =>
      have hwhole := wholeMeans_integerText i
      have hline := notMem_of_isNumeral hwhole.isNumeral (c := '\n') (by decide)
      rw [Scalar.literalText, Scalar.plainText, Text.replaceChar_eq_self hline]
      exact .number (.whole hwhole)
  | float x =>
      cases x with
      | nan => exact .word .notNumber
      | infinite negative =>
          cases negative with
          | false => exact .word .infinity
          | true => exact .number (.infinity .minus (by decide))
      | finite x => exact leafMeans_finite x
  | bool b =>
      cases b with
      | false => exact .word .no
      | true => exact .word .yes
  | atom word =>
      obtain ⟨hword, hbare⟩ := h
      -- a word has no line end, so nothing is replaced in it
      have hline : '\n' ∉ word.toList := fun hmem => absurd (hword.isWordChar _ hmem) (by decide +kernel)
      rw [Scalar.literalText, Scalar.plainText, Text.replaceChar_eq_self hline]
      have hmeans := WordMeans.bare hword hbare
      rw [String.ofList_toList] at hmeans
      exact .word hmeans

end Listing

namespace Value

/-! ## Sequences -/

mutual

/-- What is read back from the literal of a value without records. -/
def settled : Value → Value
  | .scalar leaf => .scalar leaf.settled
  | .sequence items => .sequence (settledItems items)
  | .record fields => .record fields

/-- What is read back from each element. -/
def settledItems : List Value → List Value
  | [] => []
  | item :: items => item.settled :: settledItems items

end

theorem settled_sequence (items : List Value) :
    (sequence items).settled = .sequence (items.map settled) := by
  have hitems : settledItems items = items.map settled := by
    induction items with
    | nil => rfl
    | cons item items ih => rw [settledItems, ih, List.map_cons]
  rw [settled, hitems]

/-- A readable leaf, or a sequence of such values; sequences are nested at most so deep, and no record
    is among them. -/
inductive IsReadable : Nat → Value → Prop
  | scalar {levels : Nat} {leaf : Scalar} : leaf.IsReadable → IsReadable levels (.scalar leaf)
  | sequence {levels : Nat} {items : List Value} :
      (∀ item ∈ items, IsReadable levels item) → IsReadable (levels + 1) (.sequence items)

end Value

namespace Listing

/-- There is a comma and a blank between two elements of a literal. -/
theorem isGap_separator (first : Bool) : IsGap (if first then [] else [',', ' ']) := by
  cases first
  · exact List.forall_mem_cons.2 ⟨by decide, List.forall_mem_cons.2 ⟨by decide, by simp⟩⟩
  · exact isGap_nil

/-- A readable value is written as an element that stands for what is read back. -/
theorem itemMeans_literalText {levels : Nat} {v : Value} (h : v.IsReadable levels) :
    ItemMeans levels v.literalText v.settled := by
  induction h with
  | @scalar levels leaf hleaf =>
      rw [Value.literalText, Value.settled]
      exact .inl ⟨leaf.settled, rfl, leafMeans_literalText hleaf⟩
  | @sequence levels items _ ih =>
      have hrow := itemsMean_row Value.literalText Value.itemsText isGap_separator (by simp) isGap_nil
        (fun _ => by rw [Value.itemsText]) (fun first v vs => by rw [Value.itemsText]) ih true
      rw [List.append_nil] at hrow
      rw [Value.literalText, Value.settled_sequence]
      exact .inr ((listingMeans_succ _ _ _).2 ⟨_, _, rfl, rfl, hrow⟩)

end Listing

/-- The literal of a sequence is read back: with any texts, whole numbers, truth values and readable words
    as they are, and with each finite number as the whole number that its text is or as itself. -/
theorem decode_literal {items : List Value} (h : (Value.sequence items).IsReadable 512) :
    decode (Value.sequence items).literal = .structured (Value.sequence items).settled := by
  have hmeans : Listing.ListingMeans Listing.maxLevels (Value.sequence items).literalText
      (Value.sequence items).settled := by
    rcases Listing.itemMeans_literalText h with ⟨leaf, hleaf, -⟩ | hlisting
    · rw [Value.settled] at hleaf
      exact absurd hleaf (by simp)
    · exact hlisting
  have htrim : Text.trim (Value.sequence items).literalText = (Value.sequence items).literalText := by
    rw [Value.literalText]
    exact Text.trim_eq_self (by decide) (by decide)
  have hread := (Listing.ofText?_eq_some_iff (by rw [← htrim, Text.trimEnd_trim])).2 hmeans
  rw [decode, Value.literal, String.toList_ofList, htrim, hread]

/-- Among other leaves, two is read back as a whole number and one half as itself. -/
theorem decode_literal_nested :
    decode (Value.sequence [.scalar (.str "\"a\nb"), .atom "null", .sequence [.scalar (.int (-3))],
        .scalar (.float (.finite ⟨false, 4503599627370496, 1023, by decide⟩)),
        .scalar (.float (.finite ⟨false, 4503599627370496, 1021, by decide⟩))]).literal =
      .structured (.sequence [.scalar (.str "\"a\nb"), .atom "null", .sequence [.scalar (.int (-3))],
        .scalar (.int 2), .scalar (.float (.finite ⟨false, 4503599627370496, 1021, by decide⟩))]) := by
  have hword : Scalar.IsReadable (.atom "null") :=
    ⟨⟨'n', ['u', 'l', 'l'], rfl, by decide +kernel, List.all_eq_true.1 (by decide +kernel)⟩, by decide⟩
  have htwo : Scalar.settled (.float (.finite ⟨false, 4503599627370496, 1023, by decide⟩)) = .int 2 := by
    decide +kernel
  have hhalf : Scalar.settled (.float (.finite ⟨false, 4503599627370496, 1021, by decide⟩)) =
      .float (.finite ⟨false, 4503599627370496, 1021, by decide⟩) := by
    decide +kernel
  rw [decode_literal]
  · simp only [Value.settled, Value.settledItems, Value.atom, htwo, hhalf]
    rfl
  · refine .sequence fun item hitem => ?_
    simp only [List.mem_cons, List.not_mem_nil, or_false] at hitem
    rcases hitem with rfl | rfl | rfl | rfl | rfl
    · exact .scalar trivial
    · exact .scalar hword
    · exact .sequence fun item hitem => by
        rw [List.mem_singleton.1 hitem]
        exact .scalar trivial
    · exact .scalar trivial
    · exact .scalar trivial

end CodeBlock
