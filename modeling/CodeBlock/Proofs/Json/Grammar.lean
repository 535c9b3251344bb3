import CodeBlock.Json.Reader
import CodeBlock.Proofs.Listing.Grammar

set_option autoImplicit false

/-! # The grammar of JSON

Which texts are JSON, said without a reader: blanks, strings, numbers and what stands between brackets and
braces. A string in this grammar may have any code among its escapes, one half of a pair as well; which
texts are spelled by a string is a grammar of its own (`Spells`), in which halves only come in pairs.

What stands between two brackets is a **row**: each element with what leads to it, which is a comma for all
but the first one. -/

namespace CodeBlock.Json

open Listing (IsDigits IsSign)

/-! ## Blanks -/

def IsBlanks (s : List Char) : Prop := ∀ c ∈ s, isBlank c = true

instance (s : List Char) : Decidable (IsBlanks s) :=
  inferInstanceAs (Decidable (∀ c ∈ s, isBlank c = true))

theorem isBlanks_nil : IsBlanks [] := by simp [IsBlanks]

theorem IsBlanks.append {s t : List Char} (hs : IsBlanks s) (ht : IsBlanks t) : IsBlanks (s ++ t) :=
  List.forall_mem_append.2 ⟨hs, ht⟩

/-- What leads to an element of a row: blanks, with a comma among them behind another element. -/
inductive IsLead : Bool → List Char → Prop
  | first {gap : List Char} : IsBlanks gap → IsLead true gap
  | comma {before after : List Char} :
      IsBlanks before → IsBlanks after → IsLead false (before ++ ',' :: after)

/-! ## Strings -/

/-- Four hexadecimal digits and the code that they denote. -/
def IsCode (digits : List Char) (n : Nat) : Prop := digits.length = 4 ∧ hexNumber? digits = some n

instance (digits : List Char) (n : Nat) : Decidable (IsCode digits n) :=
  inferInstanceAs (Decidable (_ ∧ _))

/-- What may stand between two quotes. -/
inductive IsStringBody : List Char → Prop
  | nil : IsStringBody []
  | plain {c : Char} {body : List Char} :
      c ≠ '"' → c ≠ '\\' → 0x20 ≤ c.toNat → IsStringBody body → IsStringBody (c :: body)
  | short {c d : Char} {body : List Char} :
      shortEscape? c = some d → IsStringBody body → IsStringBody ('\\' :: c :: body)
  | code {digits body : List Char} {n : Nat} :
      IsCode digits n → IsStringBody body → IsStringBody ('\\' :: 'u' :: digits ++ body)

/-- What follows a backslash, and the character that it stands for. -/
inductive IsEscape : List Char → Char → Prop
  | short {c d : Char} : shortEscape? c = some d → IsEscape [c] d
  | code {digits : List Char} {c : Char} : IsCode digits c.toNat → IsEscape ('u' :: digits) c
  /-- Two halves of a character beyond the first sixteen bits. -/
  | pair {high low : List Char} {h l : Nat} {c : Char} :
      IsCode high h → IsCode low l → 0xD800 ≤ h → h ≤ 0xDBFF → 0xDC00 ≤ l → l ≤ 0xDFFF →
      c.toNat = (h - 0xD800) * 0x400 + (l - 0xDC00) + 0x10000 →
      IsEscape ('u' :: high ++ '\\' :: 'u' :: low) c

/-- What stands between two quotes, and the text that it spells. -/
inductive Spells : List Char → List Char → Prop
  | nil : Spells [] []
  | plain {c : Char} {body text : List Char} :
      c ≠ '"' → c ≠ '\\' → 0x20 ≤ c.toNat → Spells body text → Spells (c :: body) (c :: text)
  | escape {e body text : List Char} {c : Char} :
      IsEscape e c → Spells body text → Spells ('\\' :: e ++ body) (c :: text)

/-! ## Numbers -/

/-- A row of digits that starts with a zero only if it is one. -/
inductive IsWhole : List Char → Prop
  | zero : IsWhole ['0']
  | digits {c : Char} {digits : List Char} :
      c ≠ '0' → IsDigits (c :: digits) → IsWhole (c :: digits)

/-- A point with the digits behind it, or nothing. -/
inductive IsFraction : List Char → Prop
  | none : IsFraction []
  | some {digits : List Char} : IsDigits digits → IsFraction ('.' :: digits)

/-- A power of ten without its letter. -/
inductive IsExponent : List Char → Prop
  | mk {sign digits : List Char} {negative : Bool} :
      IsSign sign negative → IsDigits digits → IsExponent (sign ++ digits)

/-- A power of ten, or nothing. -/
inductive IsScale : List Char → Prop
  | none : IsScale []
  | some {letter : Char} {exponent : List Char} :
      letter ∈ ['e', 'E'] → IsExponent exponent → IsScale (letter :: exponent)

/-- What may follow the whole part of a number. -/
inductive IsAfterWhole : List Char → Prop
  | mk {fraction scale : List Char} : IsFraction fraction → IsScale scale → IsAfterWhole (fraction ++ scale)

/-- A number without its sign. -/
inductive IsUnsigned : List Char → Prop
  | mk {whole part : List Char} : IsWhole whole → IsAfterWhole part → IsUnsigned (whole ++ part)

/-! ## Values -/

/-- What a text is as a part of JSON: a value, or what stands between the brackets of an array or the braces
    of an object, from the beginning or behind an element. -/
inductive Part where
  | value
  | items (first : Bool)
  | members (first : Bool)

/-- The texts of JSON, part by part. -/
inductive Derives : Part → List Char → Prop
  | null : Derives .value ['n', 'u', 'l', 'l']
  | yes : Derives .value ['t', 'r', 'u', 'e']
  | no : Derives .value ['f', 'a', 'l', 's', 'e']
  | positive {s : List Char} : IsUnsigned s → Derives .value s
  | negative {s : List Char} : IsUnsigned s → Derives .value ('-' :: s)
  | string {body : List Char} : IsStringBody body → Derives .value ('"' :: (body ++ ['"']))
  | array {row : List Char} : Derives (.items true) row → Derives .value ('[' :: (row ++ [']']))
  | object {row : List Char} : Derives (.members true) row → Derives .value ('{' :: (row ++ ['}']))
  | noItem {first : Bool} {gap : List Char} : IsBlanks gap → Derives (.items first) gap
  | item {first : Bool} {lead item row : List Char} :
      IsLead first lead → Derives .value item → Derives (.items false) row →
      Derives (.items first) (lead ++ (item ++ row))
  | noMember {first : Bool} {gap : List Char} : IsBlanks gap → Derives (.members first) gap
  | member {first : Bool} {lead body gap gap' item row : List Char} :
      IsLead first lead → IsStringBody body → IsBlanks gap → IsBlanks gap' → Derives .value item →
      Derives (.members false) row →
      Derives (.members first)
        (lead ++ '"' :: (body ++ '"' :: (gap ++ ':' :: (gap' ++ (item ++ row)))))

/-! ## What follows -/

/-- A text that may stand behind a value: it does not go on with a number. -/
def EndsValue (rest : List Char) : Prop :=
  ∀ c ∈ rest.head?, c.isDigit = false ∧ c ≠ '.' ∧ c ≠ 'e' ∧ c ≠ 'E'

theorem endsValue_nil : EndsValue [] := by simp [EndsValue]

theorem endsValue_cons {c : Char} (h : c.isDigit = false ∧ c ≠ '.' ∧ c ≠ 'e' ∧ c ≠ 'E')
    (rest : List Char) : EndsValue (c :: rest) := by
  simpa [EndsValue] using h

theorem IsBlanks.endsValue_append {gap rest : List Char} (h : IsBlanks gap) (hrest : EndsValue rest) :
    EndsValue (gap ++ rest) := by
  cases gap with
  | nil => exact hrest
  | cons c gap =>
      have hc := h c List.mem_cons_self
      simp only [isBlank, Bool.or_eq_true, beq_iff_eq] at hc
      rcases hc with ((rfl | rfl) | rfl) | rfl <;> exact endsValue_cons (by decide) _

/-- What leads to a further element ends the one before. -/
theorem IsLead.endsValue_append {lead : List Char} (h : IsLead false lead) (rest : List Char) :
    EndsValue (lead ++ rest) := by
  cases h with
  | comma hbefore _ =>
      rw [List.append_assoc]
      exact hbefore.endsValue_append (endsValue_cons (by decide) _)

/-! ## The first character -/

/-- A number starts with a digit. -/
theorem IsUnsigned.head {s : List Char} (h : IsUnsigned s) :
    ∃ c after, s = c :: after ∧ c.isDigit = true := by
  cases h with
  | mk hwhole _ =>
      cases hwhole with
      | zero => exact ⟨'0', _, rfl, by decide⟩
      | digits _ hdigits => exact ⟨_, _, rfl, hdigits.2 _ List.mem_cons_self⟩

theorem ne_of_isDigit {c d : Char} (hc : c.isDigit = true) (hd : d.isDigit = false) : c ≠ d := by
  rintro rfl
  rw [hc] at hd
  cases hd

/-- A digit is neither a blank nor a closing bracket. -/
theorem isBlank_of_isDigit {c : Char} (h : c.isDigit = true) : isBlank c = false ∧ c ≠ ']' := by
  have hspace : c ≠ ' ' := ne_of_isDigit h (by decide)
  have hline : c ≠ '\n' := ne_of_isDigit h (by decide)
  have htab : c ≠ '\t' := ne_of_isDigit h (by decide)
  have hreturn : c ≠ '\r' := ne_of_isDigit h (by decide)
  exact ⟨by simp [isBlank, hspace, hline, htab, hreturn], ne_of_isDigit h (by decide)⟩

/-- JSON starts neither with a blank nor with a closing bracket. -/
theorem Derives.head {s : List Char} (h : Derives .value s) :
    ∃ c after, s = c :: after ∧ isBlank c = false ∧ c ≠ ']' := by
  cases h with
  | null => exact ⟨_, _, rfl, by decide⟩
  | yes => exact ⟨_, _, rfl, by decide⟩
  | no => exact ⟨_, _, rfl, by decide⟩
  | positive hnumber =>
      obtain ⟨c, after, rfl, hc⟩ := hnumber.head
      exact ⟨c, after, rfl, isBlank_of_isDigit hc⟩
  | negative _ => exact ⟨_, _, rfl, by decide⟩
  | string _ => exact ⟨_, _, rfl, by decide⟩
  | array _ => exact ⟨_, _, rfl, by decide⟩
  | object _ => exact ⟨_, _, rfl, by decide⟩

end CodeBlock.Json
