import CodeBlock.Proofs.Listing.Grammar
import CodeBlock.Proofs.Text.Classes

set_option autoImplicit false

/-! # Reading numbers and words

The reader of a number takes all characters that may belong to one and looks at the row as a whole; the
grammar puts a number together from sign, digits and power. Both come to the same: a number is taken
whole if an element may end behind it, and the row denotes what the grammar says. -/

namespace CodeBlock.Listing

/-! ## Whole numbers of 64 bits -/

/-- An integer is a 64-bit number exactly if that number has its value. -/
theorem int64?_eq_some_iff {i : Int} {n : Int64} : Value.int64? i = some n ↔ n.toInt = i := by
  unfold Value.int64?
  constructor
  · intro h
    split_ifs at h with hrange
    rw [Option.some.injEq] at h
    rw [← h, Int64.toInt_ofInt_of_le hrange.1 hrange.2]
  · rintro rfl
    rw [if_pos ⟨n.le_toInt, n.toInt_lt⟩, Int64.ofInt_toInt]

/-! ## Powers of ten -/

/-- A power is nothing, or starts with its letter. -/
theorem IsPower.head_eq {s : List Char} {e : Int} (h : IsPower s e) {c : Char}
    (hc : c ∈ s.head?) : c = 'e' ∨ c = 'E' := by
  cases h with
  | none => simp at hc
  | some hletter =>
      simp only [List.cons_append, List.head?_cons, Option.mem_def, Option.some.injEq] at hc
      simpa [hc] using hletter

/-- Digits start with no sign. -/
theorem IsDigits.head_ne {s : List Char} (h : IsDigits s) {c : Char} (hc : c ∈ s.head?) :
    c ≠ '+' ∧ c ≠ '-' := by
  have hdigit : c.isDigit = true := h.2 c (List.mem_of_head? hc)
  constructor <;> rintro rfl <;> simp at hdigit

theorem isDigits_iff {s : List Char} : IsDigits s ↔ (s.isEmpty || !s.all Char.isDigit) = false := by
  simp [IsDigits]

theorem splitSign_append {sign s : List Char} {negative : Bool} (h : IsSign sign negative)
    (hs : ∀ c ∈ s.head?, c ≠ '+' ∧ c ≠ '-') : splitSign (sign ++ s) = (negative, s) := by
  cases h with
  | none =>
      cases s with
      | nil => rfl
      | cons c s =>
          obtain ⟨hplus, hminus⟩ := hs c rfl
          simp [splitSign, hplus, hminus]
  | plus => rfl
  | minus => rfl

theorem exists_sign (s : List Char) :
    ∃ sign, s = sign ++ (splitSign s).2 ∧ IsSign sign (splitSign s).1 := by
  unfold splitSign
  split
  · exact ⟨['+'], rfl, .plus⟩
  · exact ⟨['-'], rfl, .minus⟩
  · exact ⟨[], rfl, .none⟩

/-- The reader of a power accepts the powers of the grammar. -/
theorem power?_of_isPower {s : List Char} {e : Int} (h : IsPower s e) : power? s = some e := by
  cases h with
  | none => rfl
  | @some letter sign digits negative hletter hsign hdigits =>
      have hl : (letter == 'e' || letter == 'E') = true := by simpa using hletter
      have hsplit := splitSign_append hsign fun c hc => hdigits.head_ne hc
      have hd := isDigits_iff.1 hdigits
      simp only [List.cons_append, power?, hl, if_true, hsplit, hd]
      simp

/-- And it accepts no others. -/
theorem isPower_of_power? {s : List Char} {e : Int} (h : power? s = some e) : IsPower s e := by
  cases s with
  | nil =>
      obtain rfl : 0 = e := Option.some.inj h
      exact .none
  | cons letter s =>
      simp only [power?] at h
      obtain ⟨sign, hs, hsign⟩ := exists_sign s
      split_ifs at h with hletter hdigits hnegative
      all_goals
        have hl : letter ∈ ['e', 'E'] := by simpa using hletter
        have hrow : IsDigits (splitSign s).2 := isDigits_iff.2 (by simpa using hdigits)
        have hpower := IsPower.some hl hsign hrow
        rw [List.cons_append, ← hs] at hpower
        rw [Option.some.injEq] at h
        simpa [hnegative, h] using hpower

/-! ## Digits with a point -/

theorem decimal?_of_isMantissa {mantissa power : List Char} {n places : Nat} {e : Int}
    (negative : Bool) (hm : IsMantissa mantissa n places) (hp : IsPower power e) :
    decimal? negative (mantissa ++ power) = some ⟨negative, n, e - places⟩ := by
  -- a power starts with its letter, so the digits end in front of it
  have hpower : ∀ c ∈ power.head?, c.isDigit = false := by
    intro c hc
    rcases hp.head_eq hc with rfl | rfl <;> rfl
  have hread := power?_of_isPower hp
  cases hm with
  | whole hdigits =>
      have hspan := Text.span_append hdigits.2 hpower
      have hne : mantissa.isEmpty = false := by simpa using hdigits.1
      cases power with
      | nil =>
          simp only [decimal?, hspan, hne, hread]
          simp
      | cons c power =>
          -- nor does it start with a point
          have hpoint : c ≠ '.' := by
            rintro rfl
            rcases hp.head_eq (c := '.') rfl with h | h <;> simp at h
          simp only [decimal?, hspan, hne]
          simp [hpoint, hread]
  | @pointed whole fraction hdigits =>
      have hwhole : ∀ c ∈ whole, c.isDigit = true := fun c hc =>
        hdigits.2 c (List.mem_append_left _ hc)
      have hfraction : ∀ c ∈ fraction, c.isDigit = true := fun c hc =>
        hdigits.2 c (List.mem_append_right _ hc)
      have hspan : (whole ++ '.' :: (fraction ++ power)).span Char.isDigit =
          (whole, '.' :: (fraction ++ power)) := Text.span_append hwhole (by simp)
      have hspan' := Text.span_append hfraction hpower
      have hne : (whole.isEmpty && fraction.isEmpty) = false := by
        simpa [IsDigits] using hdigits.1
      rw [List.append_assoc, List.cons_append]
      simp only [decimal?, hspan, hspan', hne, hread]
      simp

/-- And it accepts nothing else. -/
theorem isMantissa_of_decimal? {negative : Bool} {s : List Char} {d : Decimal}
    (h : decimal? negative s = some d) :
    ∃ mantissa power n places e, s = mantissa ++ power ∧ IsMantissa mantissa n places ∧
      IsPower power e ∧ d = ⟨negative, n, e - places⟩ := by
  have hspan : s.span Char.isDigit = (s.takeWhile Char.isDigit, s.dropWhile Char.isDigit) :=
    List.span_eq_takeWhile_dropWhile _ _
  have hs := List.takeWhile_append_dropWhile (p := Char.isDigit) (l := s)
  have hwhole : ∀ c ∈ s.takeWhile Char.isDigit, c.isDigit = true := fun c => List.mem_takeWhile_imp
  unfold decimal? at h
  rw [hspan] at h
  simp only at h
  generalize s.takeWhile Char.isDigit = whole at *
  generalize s.dropWhile Char.isDigit = after at *
  -- with a point, the digits before it and behind it make one row
  split at h
  · rename_i rest
    have hspan' : rest.span Char.isDigit = (rest.takeWhile Char.isDigit, rest.dropWhile Char.isDigit) :=
      List.span_eq_takeWhile_dropWhile _ _
    have hrest := List.takeWhile_append_dropWhile (p := Char.isDigit) (l := rest)
    have hfraction : ∀ c ∈ rest.takeWhile Char.isDigit, c.isDigit = true :=
      fun c => List.mem_takeWhile_imp
    rw [hspan'] at h
    simp only at h
    generalize rest.takeWhile Char.isDigit = fraction at *
    generalize rest.dropWhile Char.isDigit = power at *
    split_ifs at h with hne
    rw [Option.map_eq_some_iff] at h
    obtain ⟨e, he, rfl⟩ := h
    have hdigits : IsDigits (whole ++ fraction) := by
      refine ⟨by simpa using hne, ?_⟩
      intro c hc
      exact (List.mem_append.1 hc).elim (hwhole c) (hfraction c)
    refine ⟨whole ++ '.' :: fraction, power, _, _, e, ?_, .pointed hdigits, isPower_of_power? he, rfl⟩
    rw [← hs, ← hrest, List.append_assoc, List.cons_append]
  · split_ifs at h with hne
    rw [Option.map_eq_some_iff] at h
    obtain ⟨e, he, rfl⟩ := h
    have hdigits : IsDigits whole := ⟨by simpa using hne, hwhole⟩
    refine ⟨whole, after, _, _, e, hs.symm, .whole hdigits, isPower_of_power? he, ?_⟩
    simp

theorem decimal?_eq_some_iff {negative : Bool} {s : List Char} {d : Decimal} :
    decimal? negative s = some d ↔ ∃ mantissa power n places e, s = mantissa ++ power ∧
      IsMantissa mantissa n places ∧ IsPower power e ∧ d = ⟨negative, n, e - places⟩ := by
  constructor
  · exact isMantissa_of_decimal?
  · rintro ⟨mantissa, power, n, places, e, rfl, hm, hp, rfl⟩
    exact decimal?_of_isMantissa negative hm hp

/-! ## Numbers without a sign -/

/-- A mantissa starts with a digit or a point, and never with a sign. -/
theorem IsMantissa.head {s : List Char} {n places : Nat} (h : IsMantissa s n places) :
    ∃ c rest, s = c :: rest ∧ (c.isDigit = true ∨ c = '.') := by
  have hdigits : ∀ {digits : List Char}, IsDigits digits →
      ∃ c rest, digits = c :: rest ∧ c.isDigit = true := by
    intro digits h
    cases digits with
    | nil => exact absurd rfl h.1
    | cons c rest => exact ⟨c, rest, rfl, h.2 c List.mem_cons_self⟩
  cases h with
  | whole h =>
      obtain ⟨c, rest, rfl, hc⟩ := hdigits h
      exact ⟨c, rest, rfl, .inl hc⟩
  | @pointed whole fraction h =>
      cases whole with
      | nil => exact ⟨'.', fraction, rfl, .inr rfl⟩
      | cons c whole => exact ⟨c, whole ++ '.' :: fraction, rfl, .inl (h.2 c (by simp))⟩

theorem IsMantissa.head_ne {s : List Char} {n places : Nat} (h : IsMantissa s n places)
    (power : List Char) {c : Char} (hc : c ∈ (s ++ power).head?) : c ≠ '+' ∧ c ≠ '-' := by
  obtain ⟨d, rest, rfl, hd⟩ := h.head
  obtain rfl : d = c := by simpa using hc
  constructor <;> rintro rfl <;> simp at hd

/-- Behind one sign there is one way to take a text as a whole number. -/
theorem wholeMeans_append_iff {sign s : List Char} {negative : Bool} {i : Int64}
    (hsign : IsSign sign negative) (hs : ∀ c ∈ s.head?, c ≠ '+' ∧ c ≠ '-') :
    WholeMeans (sign ++ s) i ↔ IsDigits s ∧ i.toInt = signed negative s := by
  constructor
  · rintro ⟨sign', negative', digits, heq, hsign', hdigits, hi⟩
    have hsplit := splitSign_append hsign hs
    rw [heq, splitSign_append hsign' fun c hc => hdigits.head_ne hc, Prod.mk.injEq] at hsplit
    obtain ⟨rfl, rfl⟩ := hsplit
    exact ⟨hdigits, hi⟩
  · rintro ⟨hdigits, hi⟩
    exact ⟨sign, negative, s, rfl, hsign, hdigits, hi⟩

/-- The reader of a whole number behind its sign accepts exactly what the grammar does. -/
theorem whole?_eq_some_iff {sign s : List Char} {negative : Bool} {i : Int64}
    (hsign : IsSign sign negative) (hs : ∀ c ∈ s.head?, c ≠ '+' ∧ c ≠ '-') :
    whole? negative s = some i ↔ WholeMeans (sign ++ s) i := by
  rw [wholeMeans_append_iff hsign hs, isDigits_iff, whole?]
  split_ifs with hdigits
  · simp [hdigits]
  · simp only [int64?_eq_some_iff, hdigits, true_and]

/-- The reader of a number behind its sign accepts exactly what the grammar does. -/
theorem number?_eq_some_iff {sign s : List Char} {negative : Bool} {leaf : Scalar}
    (hsign : IsSign sign negative) (hs : ∀ c ∈ s.head?, c ≠ '+' ∧ c ≠ '-') :
    number? negative s = some leaf ↔
      (∃ i, WholeMeans (sign ++ s) i ∧ leaf = .int i) ∨
      (∀ i, ¬ WholeMeans (sign ++ s) i) ∧ ∃ mantissa power n places e, s = mantissa ++ power ∧
        IsMantissa mantissa n places ∧ IsPower power e ∧
        leaf = .float (Decimal.toBinary64 ⟨negative, n, e - places⟩) := by
  have hwhole : ∀ i, whole? negative s = some i ↔ WholeMeans (sign ++ s) i :=
    fun i => whole?_eq_some_iff hsign hs
  unfold number?
  split
  · rename_i i hi
    have hi' := (hwhole i).1 hi
    constructor
    · intro h
      exact .inl ⟨i, hi', (Option.some.inj h).symm⟩
    · rintro (⟨j, hj, rfl⟩ | ⟨hnone, -⟩)
      · rw [Option.some.inj (hi.symm.trans ((hwhole j).2 hj))]
      · exact absurd hi' (hnone i)
  · rename_i hnone
    have hnone' : ∀ i, ¬ WholeMeans (sign ++ s) i := by
      intro i hi
      rw [(hwhole i).2 hi] at hnone
      exact absurd hnone (by simp)
    rw [Option.map_eq_some_iff]
    constructor
    · rintro ⟨d, hd, rfl⟩
      obtain ⟨mantissa, power, n, places, e, rfl, hm, hp, rfl⟩ := decimal?_eq_some_iff.1 hd
      exact .inr ⟨hnone', mantissa, power, n, places, e, rfl, hm, hp, rfl⟩
    · rintro (⟨i, hi, -⟩ | ⟨-, mantissa, power, n, places, e, hs, hm, hp, rfl⟩)
      · exact absurd hi (hnone' i)
      · exact ⟨_, decimal?_eq_some_iff.2 ⟨mantissa, power, n, places, e, hs, hm, hp, rfl⟩, rfl⟩

/-! ## The row of characters of a number -/

/-- Whether `c` may stand in a number behind another character. -/
def isNumberChar (previous c : Char) : Bool :=
  c.isDigit || c == '.' || c == 'e' || c == 'E' ||
    ((c == '+' || c == '-') && (previous == 'e' || previous == 'E'))

/-- Whether a text may stand in a number as a whole. -/
def isNumberRow (previous : Char) : List Char → Bool
  | [] => true
  | c :: rest => isNumberChar previous c && isNumberRow c rest

/-- A row is taken whole if what follows belongs to no number. -/
theorem spanNumber_append {row rest : List Char} {previous : Char}
    (hrow : isNumberRow previous row = true)
    (hrest : ∀ c ∈ rest.head?, ∀ d, isNumberChar d c = false) :
    spanNumber previous (row ++ rest) = (row, rest) := by
  induction row generalizing previous with
  | nil =>
      cases rest with
      | nil => rfl
      | cons c rest =>
          have hc := hrest c rfl previous
          unfold isNumberChar at hc
          simp [spanNumber, hc]
  | cons c row ih =>
      simp only [isNumberRow, Bool.and_eq_true] at hrow
      have hc := hrow.1
      unfold isNumberChar at hc
      simp only [List.cons_append, spanNumber, hc, if_true, ih hrow.2]

/-- What is taken and what is left are the text. -/
theorem spanNumber_fst_append_snd (previous : Char) (s : List Char) :
    (spanNumber previous s).1 ++ (spanNumber previous s).2 = s := by
  induction s generalizing previous with
  | nil => rfl
  | cons c s ih =>
      unfold spanNumber
      split
      · simp [ih]
      · rfl

/-- Rows that may stand behind any character may be put together. -/
theorem isNumberRow_append {a b : List Char} {previous : Char} (ha : isNumberRow previous a = true)
    (hb : ∀ c, isNumberRow c b = true) : isNumberRow previous (a ++ b) = true := by
  induction a generalizing previous with
  | nil => exact hb previous
  | cons c a ih =>
      simp only [isNumberRow, Bool.and_eq_true] at ha
      simp [isNumberRow, ha.1, ih ha.2]

theorem isNumberRow_of_isDigit {s : List Char} (h : ∀ c ∈ s, c.isDigit = true) (previous : Char) :
    isNumberRow previous s = true := by
  induction s generalizing previous with
  | nil => rfl
  | cons c s ih =>
      have hc := h c List.mem_cons_self
      simp [isNumberRow, isNumberChar, hc, ih fun d hd => h d (List.mem_cons_of_mem _ hd)]

theorem IsPower.isNumberRow {s : List Char} {e : Int} (h : IsPower s e) (previous : Char) :
    isNumberRow previous s = true := by
  cases h with
  | none => rfl
  | @some letter sign digits negative hletter hsign hdigits =>
      have hrow := fun c => isNumberRow_of_isDigit hdigits.2 c
      have hl : letter = 'e' ∨ letter = 'E' := by simpa using hletter
      cases hsign <;> rcases hl with rfl | rfl <;> simp [Listing.isNumberRow, isNumberChar, hrow]

theorem IsMantissa.isNumberRow {s : List Char} {n places : Nat} (h : IsMantissa s n places)
    (previous : Char) : isNumberRow previous s = true := by
  cases h with
  | whole hdigits => exact isNumberRow_of_isDigit hdigits.2 previous
  | @pointed whole fraction hdigits =>
      have hwhole := isNumberRow_of_isDigit fun c hc => hdigits.2 c (List.mem_append_left fraction hc)
      have hfraction := isNumberRow_of_isDigit fun c hc => hdigits.2 c (List.mem_append_right whole hc)
      refine isNumberRow_append (hwhole previous) fun c => ?_
      simp [Listing.isNumberRow, isNumberChar, hfraction]

/-! ## Words -/

theorem isWordChar_of_isWordStart {c : Char} (h : isWordStart c = true) : isWordChar c = true := by
  simp only [isWordStart, isWordChar, Text.isAlphanumeric, Bool.or_eq_true] at h ⊢
  tauto

/-- All characters of a word may stand inside of one. -/
theorem IsWord.isWordChar {s : List Char} (h : IsWord s) : ∀ c ∈ s, isWordChar c = true := by
  obtain ⟨c, rest, rfl, hc, hrest⟩ := h
  intro d hd
  rcases List.mem_cons.1 hd with rfl | hd
  · exact isWordChar_of_isWordStart hc
  · exact hrest d hd

theorem wordValue_of_wordMeans {s : List Char} {leaf : Scalar} (h : WordMeans s leaf) :
    wordValue false s = leaf := by
  cases h with
  | yes => rfl
  | no => rfl
  | infinity => rfl
  | notNumber => rfl
  | bare _ hs =>
      have hne : ∀ word : String, word.toList ∈ meaningfulWords → String.ofList s ≠ word := by
        rintro word hword rfl
        rw [String.toList_ofList] at hword
        exact hs hword
      unfold wordValue
      split
      · exact absurd ‹_› (hne "true" (by simp [meaningfulWords]))
      · exact absurd ‹_› (hne "false" (by simp [meaningfulWords]))
      · exact absurd ‹_› (hne "Infinity" (by simp [meaningfulWords]))
      · exact absurd ‹_› (hne "NaN" (by simp [meaningfulWords]))
      · rfl

theorem wordMeans_wordValue {s : List Char} (h : IsWord s) : WordMeans s (wordValue false s) := by
  by_cases hs : s ∈ meaningfulWords
  · simp only [meaningfulWords, List.mem_cons, List.not_mem_nil, or_false] at hs
    rcases hs with rfl | rfl | rfl | rfl
    · exact .yes
    · exact .no
    · exact .infinity
    · exact .notNumber
  · have hbare := WordMeans.bare h hs
    rwa [wordValue_of_wordMeans hbare]

theorem WordMeans.isWord {s : List Char} {leaf : Scalar} (h : WordMeans s leaf) : IsWord s := by
  have hword : ∀ c rest, isWordStart c = true → rest.all Listing.isWordChar = true →
      IsWord (c :: rest) := fun c rest hc hrest => ⟨c, rest, rfl, hc, List.all_eq_true.1 hrest⟩
  cases h with
  | yes => exact hword 't' _ (by decide +kernel) (by decide +kernel)
  | no => exact hword 'f' _ (by decide +kernel) (by decide +kernel)
  | infinity => exact hword 'I' _ (by decide +kernel) (by decide +kernel)
  | notNumber => exact hword 'N' _ (by decide +kernel) (by decide +kernel)
  | bare h => exact h

/-! ## Where numbers and words end -/

theorem head_of_endsElement {rest : List Char} (h : endsElement rest = true) {c : Char}
    (hc : c ∈ rest.head?) : isWordChar c = false ∧ ∀ d, isNumberChar d c = false := by
  have hplain : ∀ {c : Char}, isWordChar c = false → c.isDigit = false →
      c ∉ ['.', 'e', 'E', '+', '-'] → isWordChar c = false ∧ ∀ d, isNumberChar d c = false := by
    intro c hword hdigit hsign
    refine ⟨hword, fun d => ?_⟩
    simp only [List.mem_cons, List.not_mem_nil, or_false, not_or] at hsign
    simp [isNumberChar, hdigit, hsign]
  cases rest with
  | nil => simp at hc
  | cons d rest =>
      obtain rfl : d = c := by simpa using hc
      simp only [endsElement, isSeparator, Bool.or_eq_true, beq_iff_eq] at h
      rcases h with rfl | rfl | hblank
      · exact hplain (by decide +kernel) (by decide) (by decide)
      · exact hplain (by decide +kernel) (by decide) (by decide)
      · have hall := Text.forall_of_isBlank
          (P := fun c => isWordChar c = false ∧ c.isDigit = false ∧ c ∉ ['.', 'e', 'E', '+', '-'])
          (by decide +kernel) hblank
        exact hplain hall.1 hall.2.1 hall.2.2

/-- What may come first in a number is no letter. -/
theorem isAlphabetic_of_isDigit_or_point {c : Char} (h : c.isDigit = true ∨ c = '.') :
    Text.isAlphabetic c = false := by
  rcases h with h | rfl
  · exact Text.isAlphabetic_of_isDigit h
  · decide +kernel

theorem readNumber_append {body rest : List Char} {negative : Bool} {leaf : Scalar}
    (hhead : ∃ c after, body = c :: after ∧ (c.isDigit = true ∨ c = '.'))
    (hrow : isNumberRow ' ' body = true) (hnumber : number? negative body = some leaf)
    (hrest : endsElement rest = true) : readNumber negative (body ++ rest) = some (leaf, rest) := by
  have hspan := spanNumber_append hrow fun c hc => (head_of_endsElement hrest hc).2
  obtain ⟨c, after, rfl, hc⟩ := hhead
  simp only [List.cons_append] at hspan ⊢
  simp [readNumber, isAlphabetic_of_isDigit_or_point hc, hspan, hnumber]

theorem readNumber_of_numberMeans {s : List Char} {leaf : Scalar} (h : NumberMeans s leaf) :
    ∃ sign negative c after, s = sign ++ c :: after ∧ IsSign sign negative ∧
      (sign = [] → c.isDigit = true ∨ c = '.') ∧
      ∀ rest, endsElement rest = true →
        readNumber negative (c :: after ++ rest) = some (leaf, rest) := by
  -- Both words are read alike: the word is taken whole and has a value that is a number.
  have hwords : ∀ (sign : List Char) (negative : Bool) (word : List Char) (x : Binary64) (c : Char)
      (after : List Char), word = c :: after → IsSign sign negative → sign ≠ [] →
      Text.isAlphabetic c = true → (∀ d ∈ word, isWordChar d = true) →
      wordValue negative word = .float x →
      ∃ sign' negative' c' after', sign ++ word = sign' ++ c' :: after' ∧ IsSign sign' negative' ∧
        (sign' = [] → c'.isDigit = true ∨ c' = '.') ∧
        ∀ rest, endsElement rest = true →
          readNumber negative' (c' :: after' ++ rest) = some (.float x, rest) := by
    rintro sign negative word x c after rfl hsign hne hc hword hvalue
    refine ⟨sign, negative, c, after, rfl, hsign, fun h => absurd h hne, fun rest hrest => ?_⟩
    have hspan := Text.span_append hword fun d hd => (head_of_endsElement hrest hd).1
    simp only [List.cons_append] at hspan ⊢
    simp only [readNumber, hc, if_true, hspan, hvalue]
  cases h with
  | @whole s i hwhole =>
      obtain ⟨sign, negative, digits, rfl, hsign, hdigits, hi⟩ := hwhole
      have hm := IsMantissa.whole hdigits
      obtain ⟨c, after, rfl, hc⟩ := hm.head
      refine ⟨sign, negative, c, after, rfl, hsign, fun _ => hc, fun rest hrest => ?_⟩
      refine readNumber_append ⟨c, after, rfl, hc⟩ (hm.isNumberRow ' ') ?_ hrest
      rw [number?_eq_some_iff hsign fun d hd => hdigits.head_ne hd]
      exact .inl ⟨i, ⟨sign, negative, _, rfl, hsign, hdigits, hi⟩, rfl⟩
  | @decimal sign mantissa power negative n places e hsign hm hp hnone =>
      obtain ⟨c, after, rfl, hc⟩ := hm.head
      refine ⟨sign, negative, c, after ++ power, by simp, hsign, fun _ => hc, fun rest hrest => ?_⟩
      refine readNumber_append ⟨c, after ++ power, rfl, hc⟩
        (isNumberRow_append (hm.isNumberRow ' ') hp.isNumberRow) ?_ hrest
      rw [← List.cons_append, number?_eq_some_iff hsign fun d hd => hm.head_ne power hd]
      exact .inr ⟨by simpa using hnone, _, power, n, places, e, rfl, hm, hp, rfl⟩
  | @infinity sign negative hsign hne =>
      exact hwords sign negative _ _ 'I' "nfinity".toList rfl hsign hne (by decide +kernel)
        (List.all_eq_true.1 (by decide +kernel)) (by cases negative <;> rfl)
  | @notNumber sign negative hsign hne =>
      exact hwords sign negative _ _ 'N' "aN".toList rfl hsign hne (by decide +kernel)
        (List.all_eq_true.1 (by decide +kernel)) (by cases negative <;> rfl)

/-- Behind a space no sign belongs to a number. -/
theorem head_spanNumber_ne {s : List Char} {c : Char} (hc : c ∈ (spanNumber ' ' s).1.head?) :
    c ≠ '+' ∧ c ≠ '-' := by
  cases s with
  | nil => simp [spanNumber] at hc
  | cons d s =>
      simp only [spanNumber] at hc
      split_ifs at hc with hd
      · obtain rfl : d = c := by simpa using hc
        constructor <;> rintro rfl <;> simp at hd
      · simp at hc

/-- The words that are read as numbers are the two of the grammar. -/
theorem eq_of_wordValue_eq_float {negative : Bool} {word : List Char} {x : Binary64}
    (h : wordValue negative word = .float x) :
    word = "Infinity".toList ∧ x = .infinite negative ∨ word = "NaN".toList ∧ x = .nan := by
  unfold wordValue at h
  split at h
  case h_3 heq =>
    refine .inl ⟨?_, (Scalar.float.inj h).symm⟩
    rw [← heq, String.toList_ofList]
  case h_4 heq =>
    refine .inr ⟨?_, (Scalar.float.inj h).symm⟩
    rw [← heq, String.toList_ofList]
  all_goals exact absurd h (by simp)

theorem numberMeans_of_readNumber {sign s rest : List Char} {negative : Bool} {leaf : Scalar}
    (hsign : IsSign sign negative) (hhead : sign = [] → ∀ c ∈ s.head?, c.isDigit = true ∨ c = '.')
    (h : readNumber negative s = some (leaf, rest)) :
    ∃ body, s = body ++ rest ∧ NumberMeans (sign ++ body) leaf := by
  cases s with
  | nil => simp [readNumber] at h
  | cons c s =>
      simp only [readNumber] at h
      split_ifs at h with hletter
      · -- without a sign it would have started with a digit or a point
        have hne : sign ≠ [] := by
          rintro rfl
          rw [isAlphabetic_of_isDigit_or_point (hhead rfl c rfl)] at hletter
          exact absurd hletter (by simp)
        have hs := List.takeWhile_append_dropWhile (p := isWordChar) (l := c :: s)
        rw [List.span_eq_takeWhile_dropWhile] at h
        simp only at h
        generalize (c :: s).takeWhile isWordChar = word at h hs
        split at h
        · rename_i x hx
          simp only [Option.some.injEq, Prod.mk.injEq] at h
          obtain ⟨rfl, rfl⟩ := h
          refine ⟨word, hs.symm, ?_⟩
          rcases eq_of_wordValue_eq_float hx with ⟨rfl, rfl⟩ | ⟨rfl, rfl⟩
          · exact .infinity hsign hne
          · exact .notNumber hsign hne
        · exact absurd h (by simp)
      · rw [Option.map_eq_some_iff] at h
        obtain ⟨leaf', hnumber, h⟩ := h
        rw [Prod.mk.injEq] at h
        obtain ⟨rfl, rfl⟩ := h
        refine ⟨_, (spanNumber_fst_append_snd ' ' (c :: s)).symm, ?_⟩
        rw [number?_eq_some_iff hsign fun d hd => head_spanNumber_ne hd] at hnumber
        generalize (spanNumber ' ' (c :: s)).1 = body at hnumber
        rcases hnumber with ⟨i, hi, rfl⟩ | ⟨hnone, mantissa, power, n, places, e, rfl, hm, hp, rfl⟩
        · exact .whole hi
        · rw [← List.append_assoc] at hnone ⊢
          exact .decimal hsign hm hp hnone

end CodeBlock.Listing
