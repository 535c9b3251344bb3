import CodeBlock.Listing

set_option autoImplicit false

/-! # The grammar of listings

What a listing is, said without a reader: which texts are escapes, numbers and words, and how elements
are put between brackets. Nothing here scans or looks ahead, so a text may be cut wherever the rules
allow it; that the rules leave one way only, and that it is the one the reader takes, is proved beside
the reader. -/

namespace CodeBlock.Listing

/-! ## Texts in quotes -/

def quotes : List Char := ['"', '\'', '\x60']

/-- The characters with a meaning of their own behind a backslash. -/
def namedEscapes : List (Char × Char) :=
  [('n', '\n'), ('t', '\t'), ('r', '\r'), ('b', '\x08'), ('f', '\x0c'), ('v', '\x0b'), ('0', '\x00')]

/-- `c` is a hexadecimal digit, small or capital, of value `d`. -/
def IsHexDigit (c : Char) (d : Nat) : Prop :=
  d < 16 ∧ (c = Nat.digitChar d ∨ c = (Nat.digitChar d).toUpper)

/-- A row of hexadecimal digits and its value. -/
inductive IsHexRow : List Char → Nat → Prop
  | nil : IsHexRow [] 0
  | snoc {s : List Char} {n : Nat} {c : Char} {d : Nat} :
      IsHexRow s n → IsHexDigit c d → IsHexRow (s ++ [c]) (16 * n + d)

/-- What follows a backslash, and the character that it stands for. -/
inductive IsEscape : List Char → Char → Prop
  | named {c d : Char} : (c, d) ∈ namedEscapes → IsEscape [c] d
  | code2 {digits : List Char} {c : Char} :
      digits.length = 2 → IsHexRow digits c.toNat → IsEscape ('x' :: digits) c
  | code4 {digits : List Char} {c : Char} :
      digits.length = 4 → IsHexRow digits c.toNat → IsEscape ('u' :: digits) c
  /-- Any number of digits in braces, with a plus sign before them if one likes. -/
  | braced {sign digits : List Char} {c : Char} :
      sign ∈ [[], ['+']] → digits ≠ [] → IsHexRow digits c.toNat →
      IsEscape ('u' :: '\x7b' :: sign ++ digits ++ ['\x7d']) c
  | itself {c : Char} : c ∉ namedEscapes.map Prod.fst → c ≠ 'x' → c ≠ 'u' → IsEscape [c] c

/-- What stands between two quotes, and the text that it stands for. -/
inductive IsBody (quote : Char) : List Char → List Char → Prop
  | nil : IsBody quote [] []
  | plain {c : Char} {body text : List Char} :
      c ≠ quote → c ≠ '\\' → IsBody quote body text → IsBody quote (c :: body) (c :: text)
  | escape {e : List Char} {c : Char} {body text : List Char} :
      IsEscape e c → IsBody quote body text → IsBody quote ('\\' :: e ++ body) (c :: text)

/-! ## Words -/

def IsWord (s : List Char) : Prop :=
  ∃ c rest, s = c :: rest ∧ isWordStart c = true ∧ ∀ d ∈ rest, isWordChar d = true

def meaningfulWords : List (List Char) :=
  ["true".toList, "false".toList, "Infinity".toList, "NaN".toList]

/-- A word and the leaf that it stands for. -/
inductive WordMeans : List Char → Scalar → Prop
  | yes : WordMeans "true".toList (.bool true)
  | no : WordMeans "false".toList (.bool false)
  | infinity : WordMeans "Infinity".toList (.float (.infinite false))
  | notNumber : WordMeans "NaN".toList (.float .nan)
  | bare {s : List Char} :
      IsWord s → s ∉ meaningfulWords → WordMeans s (.atom (String.ofList s))

/-! ## Numbers -/

/-- A row of decimal digits, at least one. -/
def IsDigits (s : List Char) : Prop := s ≠ [] ∧ ∀ c ∈ s, c.isDigit = true

/-- A sign or none, and whether it is a minus. -/
inductive IsSign : List Char → Bool → Prop
  | none : IsSign [] false
  | plus : IsSign ['+'] false
  | minus : IsSign ['-'] true

/-- Digits that may have a point among them, their value without the point, and how many of them stand
    behind it. -/
inductive IsMantissa : List Char → Nat → Nat → Prop
  | whole {digits : List Char} :
      IsDigits digits → IsMantissa digits (Decimal.valueOfDigits digits) 0
  | pointed {whole fraction : List Char} :
      IsDigits (whole ++ fraction) →
      IsMantissa (whole ++ '.' :: fraction) (Decimal.valueOfDigits (whole ++ fraction)) fraction.length

/-- A power of ten or none, and its exponent. -/
inductive IsPower : List Char → Int → Prop
  | none : IsPower [] 0
  | some {letter : Char} {sign digits : List Char} {negative : Bool} :
      letter ∈ ['e', 'E'] → IsSign sign negative → IsDigits digits →
      IsPower (letter :: sign ++ digits)
        (if negative then -(Decimal.valueOfDigits digits : Int) else Decimal.valueOfDigits digits)

/-- A text that 64 bits hold as a whole number. -/
def WholeMeans (s : List Char) (i : Int64) : Prop :=
  ∃ sign negative digits, s = sign ++ digits ∧ IsSign sign negative ∧ IsDigits digits ∧
    i.toInt = if negative then -(Decimal.valueOfDigits digits : Int) else Decimal.valueOfDigits digits

/-- A number and the leaf that it stands for: whole if it fits, and else the nearest of the binary
    format. -/
inductive NumberMeans : List Char → Scalar → Prop
  | whole {s : List Char} {i : Int64} : WholeMeans s i → NumberMeans s (.int i)
  | decimal {sign mantissa power : List Char} {negative : Bool} {n places : Nat} {exponent : Int} :
      IsSign sign negative → IsMantissa mantissa n places → IsPower power exponent →
      (∀ i, ¬ WholeMeans (sign ++ mantissa ++ power) i) →
      NumberMeans (sign ++ mantissa ++ power)
        (.float (Decimal.toBinary64 ⟨negative, n, exponent - places⟩))
  | infinity {sign : List Char} {negative : Bool} :
      IsSign sign negative → sign ≠ [] →
      NumberMeans (sign ++ "Infinity".toList) (.float (.infinite negative))
  | notNumber {sign : List Char} {negative : Bool} :
      IsSign sign negative → sign ≠ [] → NumberMeans (sign ++ "NaN".toList) (.float .nan)

/-! ## Elements -/

/-- A leaf: a text, a number or a word. -/
inductive LeafMeans : List Char → Scalar → Prop
  | text {quote : Char} {body text : List Char} :
      quote ∈ quotes → IsBody quote body text →
      LeafMeans (quote :: body ++ [quote]) (.str (String.ofList text))
  | number {s : List Char} {leaf : Scalar} : NumberMeans s leaf → LeafMeans s leaf
  | word {s : List Char} {leaf : Scalar} : WordMeans s leaf → LeafMeans s leaf

/-- A run of separators. -/
def IsGap (s : List Char) : Prop := ∀ c ∈ s, isSeparator c = true

/-- Elements with separators around them. Between two there is at least one; `first` says that no
    element came before. -/
inductive ItemsMean (Item : List Char → Value → Prop) : Bool → List Char → List Value → Prop
  | nil {first : Bool} {gap : List Char} : IsGap gap → ItemsMean Item first gap []
  | cons {first : Bool} {gap item rest : List Char} {value : Value} {values : List Value} :
      IsGap gap → (first = false → gap ≠ []) → Item item value → ItemsMean Item false rest values →
      ItemsMean Item first (gap ++ item ++ rest) (value :: values)

/-- A listing in which brackets are nested at most so deep, and the value that it stands for. -/
def ListingMeans : Nat → List Char → Value → Prop
  | 0, _, _ => False
  | levels + 1, s, value =>
      ∃ inner items, s = '[' :: inner ++ [']'] ∧ value = .sequence items ∧
        ItemsMean
          (fun item value =>
            (∃ leaf, value = .scalar leaf ∧ LeafMeans item leaf) ∨ ListingMeans levels item value)
          true inner items

/-- An element of a listing: a leaf, or a listing nested at most so deep. -/
def ItemMeans (levels : Nat) (s : List Char) (value : Value) : Prop :=
  (∃ leaf, value = .scalar leaf ∧ LeafMeans s leaf) ∨ ListingMeans levels s value

/-- A listing is a row of elements in brackets, which are nested one level less. -/
theorem listingMeans_succ (levels : Nat) (s : List Char) (value : Value) :
    ListingMeans (levels + 1) s value ↔
      ∃ inner items, s = '[' :: inner ++ [']'] ∧ value = .sequence items ∧
        ItemsMean (ItemMeans levels) true inner items := Iff.rfl

/-- What holds of all leaves, and of a sequence whenever it holds of its elements, holds of whatever a
    listing stands for. -/
theorem ListingMeans.value_induction {P : Nat → Value → Prop}
    (hleaf : ∀ {levels s leaf}, LeafMeans s leaf → P levels (.scalar leaf))
    (hsequence : ∀ {levels items}, (∀ item ∈ items, P levels item) → P (levels + 1) (.sequence items))
    {levels : Nat} {s : List Char} {v : Value} (h : ListingMeans levels s v) : P levels v := by
  induction levels generalizing s v with
  | zero => exact absurd h (by simp [ListingMeans])
  | succ levels ih =>
      obtain ⟨inner, items, -, rfl, hitems⟩ := (listingMeans_succ _ _ _).1 h
      refine hsequence ?_
      clear h
      generalize true = first at hitems
      induction hitems with
      | nil => simp
      | cons _ _ hitem _ ih' =>
          refine List.forall_mem_cons.2 ⟨?_, ih'⟩
          rcases hitem with ⟨leaf, rfl, hleaf'⟩ | hlisting
          · exact hleaf hleaf'
          · exact ih hlisting

end CodeBlock.Listing
