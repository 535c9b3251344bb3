import CodeBlock.Proofs.Listing.Writing
import CodeBlock.Value.Json

set_option autoImplicit false

/-! # Printed results are listings

A sequence is printed as JSON, on one line or on many, and both texts are listings: commas, line ends and
indentation are separators, and each leaf is written as a leaf of the grammar. What JSON has no form for
is gone for good: a number that is not finite is `null` from then on, and a bare word is a text. The rest
is read back as it was, finite numbers included, since their texts always have a point or a power of ten
and so are taken for no whole numbers (`decode_toJson`). -/

namespace CodeBlock

namespace Listing

/-! ## Numbers -/

/-- A decimal with a power of ten has a mantissa and a power that say the same. -/
theorem isMantissa_powerText (digits : Nat) (exponent : Int) :
    ∃ mantissa power places e, NumberStyle.powerText digits exponent = mantissa ++ 'e' :: power ∧
      IsMantissa mantissa digits places ∧ IsPower ('e' :: power) e ∧ e - places = exponent := by
  have hwritten := isDigits_toDigits digits
  have hvalue : Decimal.valueOfDigits (Nat.toDigits 10 digits) = digits := Nat.ofDigitChars_ten_toDigits
  simp only [NumberStyle.powerText]
  generalize Nat.toDigits 10 digits = written at hwritten hvalue
  generalize hpower : exponent + written.length - 1 = power
  have hsign : IsPower ('e' :: (if power < 0 then '-' else '+') :: Nat.toDigits 10 power.natAbs) power := by
    have hdigits := isDigits_toDigits power.natAbs
    have habs : Decimal.valueOfDigits (Nat.toDigits 10 power.natAbs) = power.natAbs :=
      Nat.ofDigitChars_ten_toDigits
    by_cases hnegative : power < 0
    · have h := @IsPower.some 'e' _ _ _ (by decide) .minus hdigits
      rw [habs, if_pos rfl, show -(power.natAbs : Int) = power by omega] at h
      simpa [hnegative] using h
    · have h := @IsPower.some 'e' _ _ _ (by decide) .plus hdigits
      rw [habs, if_neg Bool.false_ne_true, show (power.natAbs : Int) = power by omega] at h
      simpa [hnegative] using h
  -- the point stands behind the first digit, and all others are places
  match written with
  | [] => exact absurd rfl hwritten.1
  | [first] =>
      refine ⟨[first], _, 0, power, rfl, hvalue ▸ .whole hwritten, hsign, ?_⟩
      simp only [List.length_singleton] at hpower
      omega
  | first :: second :: more =>
      have hpointed := @IsMantissa.pointed [first] (second :: more) hwritten
      rw [show [first] ++ second :: more = first :: second :: more from rfl, hvalue] at hpointed
      refine ⟨_, _, _, power, rfl, hpointed, hsign, ?_⟩
      simp only [List.length_cons] at hpower ⊢
      omega

/-- A number is written in plain notation or with a power of ten, behind its sign. -/
theorem write_eq (style : NumberStyle) (d : Decimal) :
    style.write d = (if d.negative then ['-'] else []) ++ style.plainText d.digits d.exponent ∨
      style.write d =
        (if d.negative then ['-'] else []) ++ NumberStyle.powerText d.digits d.exponent := by
  have hcases : ∃ isPlain : Bool, style.write d = (if d.negative then ['-'] else []) ++
      if isPlain then style.plainText d.digits d.exponent
      else NumberStyle.powerText d.digits d.exponent := ⟨_, rfl⟩
  obtain ⟨isPlain, htext⟩ := hcases
  cases isPlain with
  | true => exact .inl htext
  | false => exact .inr htext

theorem point_mem_plainText {style : NumberStyle} (h : style.wholePoint = true) (digits : Nat)
    (exponent : Int) : '.' ∈ style.plainText digits exponent := by
  unfold NumberStyle.plainText
  by_cases hsign : 0 ≤ exponent
  · simp [hsign, h]
  · simp [hsign]

theorem not_wholeMeans {sign s : List Char} {negative : Bool} (hsign : IsSign sign negative)
    (hs : ∀ c ∈ s.head?, c ≠ '+' ∧ c ≠ '-') {c : Char} (hc : c ∈ s) (hdigit : c.isDigit = false)
    (i : Int64) : ¬ WholeMeans (sign ++ s) i := by
  intro h
  obtain ⟨hdigits, -⟩ := (wholeMeans_append_iff hsign hs).1 h
  exact absurd (hdigits.2 c hc) (by simp [hdigit])

theorem numberMeans_floatText (x : Binary64.Finite) :
    NumberMeans (Json.floatText x) (.float (.finite x)) := by
  have hback := x.toBinary64_shortest Json.numberStyle.tie
  rw [Json.floatText]
  generalize x.shortest Json.numberStyle.tie = d at hback ⊢
  have hsign := isSign_minus d.negative
  rcases write_eq Json.numberStyle d with htext | htext
  · obtain ⟨n, places, hmantissa, hvalue⟩ := isMantissa_plainText Json.numberStyle d.digits d.exponent
    -- JSON writes a point or a power, so the text is never that of a whole number
    have hpoint := @point_mem_plainText Json.numberStyle rfl d.digits d.exponent
    have hnumber := NumberMeans.decimal hsign hmantissa .none fun i => by
      rw [List.append_nil]
      exact not_wholeMeans hsign (fun c hc => hmantissa.head_ne [] (by simpa using hc)) hpoint
        (by decide) i
    rwa [List.append_nil, Int.zero_sub, hvalue, hback, ← htext] at hnumber
  · obtain ⟨mantissa, power, places, e, hparts, hmantissa, hpower, he⟩ :=
      isMantissa_powerText d.digits d.exponent
    have hnumber := NumberMeans.decimal hsign hmantissa hpower fun i => by
      rw [List.append_assoc]
      exact not_wholeMeans hsign (fun c => hmantissa.head_ne _) (c := 'e') (by simp) (by decide) i
    rwa [List.append_assoc, he, hback, ← hparts, ← htext] at hnumber

end Listing

/-! ## What JSON keeps -/

/-- What a leaf is once it has been printed as JSON and read: a number that is not finite is `null`, and so
    are the bare words that say that there is no value; any other bare word is a text. -/
def Scalar.printed : Scalar → Scalar
  | .float (.finite x) => .float (.finite x)
  | .float _ => .atom "null"
  | .atom word => if word = "null" ∨ word = "undefined" then .atom "null" else .str word
  | leaf => leaf

namespace Value

mutual

/-- What a value without records is once it has been printed as JSON and read. -/
def printed : Value → Value
  | .scalar leaf => .scalar leaf.printed
  | .sequence items => .sequence (printedItems items)
  | .record fields => .record fields

/-- What each element is then. -/
def printedItems : List Value → List Value
  | [] => []
  | item :: items => item.printed :: printedItems items

end

theorem printed_sequence (items : List Value) :
    (sequence items).printed = .sequence (items.map printed) := by
  have hitems : printedItems items = items.map printed := by
    induction items with
    | nil => rfl
    | cons item items ih => rw [printedItems, ih, List.map_cons]
  rw [printed, hitems]

/-- A leaf, or a sequence of such values; sequences are nested at most so deep, and no record is among
    them. -/
inductive IsListed : Nat → Value → Prop
  | scalar {levels : Nat} {leaf : Scalar} : IsListed levels (.scalar leaf)
  | sequence {levels : Nat} {items : List Value} :
      (∀ item ∈ items, IsListed levels item) → IsListed (levels + 1) (.sequence items)

end Value

namespace Listing

/-! ## Leaves -/

theorem leafMeans_null : LeafMeans ['n', 'u', 'l', 'l'] (.atom "null") :=
  .word (.bare ⟨'n', ['u', 'l', 'l'], rfl, by decide +kernel, List.all_eq_true.1 (by decide +kernel)⟩
    (by decide))

theorem leafMeans_bool (b : Bool) : LeafMeans (Json.compactText (.bool b)) (.bool b) := by
  cases b
  · exact .word .no
  · exact .word .yes

theorem leafMeans_compactText (leaf : Scalar) :
    LeafMeans (Json.compactText (Value.leafToJson leaf)) leaf.printed := by
  cases leaf with
  | str s => exact leafMeans_quoted s
  | int i => exact .number (.whole (wholeMeans_integerText i))
  | float x =>
      cases x with
      | nan => exact leafMeans_null
      | infinite _ => exact leafMeans_null
      | finite x => exact .number (numberMeans_floatText x)
  | bool b => exact leafMeans_bool b
  | atom word =>
      rw [Value.leafToJson, Scalar.printed]
      split_ifs
      · exact leafMeans_null
      · exact leafMeans_quoted word

/-- On many lines a leaf has the same text. -/
theorem indentedText_leafToJson (level : Nat) (leaf : Scalar) :
    Json.indentedText level (Value.leafToJson leaf) = Json.compactText (Value.leafToJson leaf) := by
  cases leaf with
  | float x => cases x <;> rfl
  | atom word =>
      rw [Value.leafToJson]
      split_ifs <;> rfl
  | _ => rfl

/-! ## Rows -/

/-- Before an element there are blanks, and between two elements there is a comma, too. -/
theorem isGap_comma {blanks : List Char} (h : IsGap blanks) (first : Bool) :
    IsGap ((if first then [] else [',']) ++ blanks) := by
  cases first with
  | false => exact List.forall_mem_cons.2 ⟨by decide, h⟩
  | true => exact h

theorem isGap_newLine (level : Nat) : IsGap (Json.newLine level) := by
  intro c hc
  rcases List.mem_cons.1 hc with rfl | hc
  · decide
  · rw [List.eq_of_mem_replicate hc]
    decide

/-- The JSON text of a value without records is an element that stands for what JSON keeps of it. -/
theorem itemMeans_compactText {levels : Nat} {v : Value} (h : v.IsListed levels) :
    ItemMeans levels (Json.compactText v.toJson) v.printed := by
  induction h with
  | @scalar levels leaf =>
      rw [Value.toJson, Value.printed]
      exact .inl ⟨leaf.printed, rfl, leafMeans_compactText leaf⟩
  | @sequence levels items _ ih =>
      have hrow := itemsMean_row (fun v => Json.compactText v.toJson)
        (fun first vs => Json.compactItems first (Value.toJsonItems vs)) (isGap_comma isGap_nil) (by simp)
        isGap_nil (fun _ => rfl)
        (fun first v vs => by rw [Value.toJsonItems, Json.compactItems, List.append_nil]) ih true
      rw [Value.toJson, Value.printed_sequence, Json.compactText]
      rw [List.append_nil] at hrow
      exact .inr ((listingMeans_succ _ _ _).2 ⟨_, _, rfl, rfl, hrow⟩)

theorem itemMeans_indentedText {levels : Nat} {v : Value} (h : v.IsListed levels) (level : Nat) :
    ItemMeans levels (Json.indentedText level v.toJson) v.printed := by
  induction h generalizing level with
  | @scalar levels leaf =>
      rw [Value.toJson, Value.printed, indentedText_leafToJson]
      exact .inl ⟨leaf.printed, rfl, leafMeans_compactText leaf⟩
  | @sequence levels items _ ih =>
      refine .inr ((listingMeans_succ _ _ _).2 ?_)
      rw [Value.toJson, Value.printed_sequence]
      cases items with
      | nil => exact ⟨[], [], rfl, rfl, .nil isGap_nil⟩
      | cons item items =>
          have hrow := itemsMean_row (fun v => Json.indentedText (level + 1) v.toJson)
            (fun first vs => Json.indentedItems (level + 1) first (Value.toJsonItems vs))
            (isGap_comma (isGap_newLine (level + 1))) (by simp) (isGap_newLine level) (fun _ => rfl)
            (fun first v vs => by rw [Value.toJsonItems, Json.indentedItems])
            (fun item hitem => ih item hitem (level + 1)) true
          exact ⟨_, _, by rw [Value.toJsonItems, Json.indentedText]; simp, rfl, hrow⟩

/-! ## What is decoded -/

/-- A listing stands for a sequence without records, nested no deeper than it is itself. -/
theorem ListingMeans.isListed {levels : Nat} {s : List Char} {v : Value} (h : ListingMeans levels s v) :
    v.IsListed levels :=
  h.value_induction (fun _ => .scalar) .sequence

end Listing

/-- What is printed for a sequence is read back, in both layouts and alike: with any texts, whole numbers,
    truth values and finite numbers as they are, and with the other leaves as what JSON keeps of them. All
    that is ever decoded is such a sequence. -/
theorem decode_toJson :
    (∀ output v, decode output = .structured v → v.IsListed 512 ∧ ∃ items, v = .sequence items) ∧
    ∀ items, (Value.sequence items).IsListed 512 →
      decode (Value.sequence items).toJson.compact = .structured (Value.sequence items).printed ∧
      decode (Value.sequence items).toJson.pretty = .structured (Value.sequence items).printed := by
  -- a sequence is no leaf, so its text is a listing
  have hlisting : ∀ {s : List Char} {items : List Value},
      Listing.ItemMeans 512 s (Value.sequence items).printed →
        decode (String.ofList s) = .structured (Value.sequence items).printed := by
    intro s items h
    rw [Value.printed] at h ⊢
    simpa using @decode_of_listingMeans [] s [] _ (by simp) (by simp) h.listingMeans
  refine ⟨fun output v h => ?_, fun items h => ⟨?_, ?_⟩⟩
  · have hmeans := listingMeans_of_decode h
    obtain ⟨inner, items, -, hitems, -⟩ := (Listing.listingMeans_succ 511 _ _).1 hmeans
    exact ⟨hmeans.isListed, items, hitems⟩
  · exact hlisting (Listing.itemMeans_compactText h)
  · exact hlisting (Listing.itemMeans_indentedText h 0)

/-- Two stays a number with a point, `undefined` is `null` from then on, and an empty row stays on its
    line. -/
theorem decode_toJson_nested :
    decode (Value.sequence [.scalar (.str "\"a\nb"), .atom "undefined", .atom "x y",
        .sequence [.sequence [], .scalar (.int (-3)), .scalar (.float (.infinite true))],
        .scalar (.float (.finite ⟨false, 4503599627370496, 1023, by decide⟩))]).toJson.pretty =
      .structured (.sequence [.scalar (.str "\"a\nb"), .atom "null", .scalar (.str "x y"),
        .sequence [.sequence [], .scalar (.int (-3)), .atom "null"],
        .scalar (.float (.finite ⟨false, 4503599627370496, 1023, by decide⟩))]) ∧
    (Value.sequence [.scalar (.str "\"a\nb"), .atom "null", .scalar (.str "x y"),
      .sequence [.sequence [], .scalar (.int (-3)), .atom "null"],
      .scalar (.float (.finite ⟨false, 4503599627370496, 1023, by decide⟩))]).IsListed 512 := by
  have hlisted : (Value.sequence [.scalar (.str "\"a\nb"), .atom "undefined", .atom "x y",
      .sequence [.sequence [], .scalar (.int (-3)), .scalar (.float (.infinite true))],
      .scalar (.float (.finite ⟨false, 4503599627370496, 1023, by decide⟩))]).IsListed 512 := by
    refine .sequence ?_
    simp only [List.forall_mem_cons, List.not_mem_nil, false_implies, implies_true, and_true]
    refine ⟨.scalar, .scalar, .scalar, .sequence ?_, .scalar⟩
    simp only [List.forall_mem_cons, List.not_mem_nil, false_implies, implies_true, and_true]
    exact ⟨.sequence (by simp), .scalar, .scalar⟩
  have hread := (decode_toJson.2 _ hlisted).2
  simp only [Value.printed, Value.printedItems, Scalar.printed, Value.atom] at hread
  exact ⟨hread, (decode_toJson.1 _ _ hread).1⟩

end CodeBlock
