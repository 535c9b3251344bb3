import CodeBlock.Proofs.Listing.Grammar
import CodeBlock.Proofs.Text.Classes
import Mathlib.Data.List.Induction

set_option autoImplicit false

/-! # Reading texts in quotes

The readers of digits, escapes and texts against the grammar: each accepts what the grammar derives, with
anything behind it, and what it accepts has a derivation. -/

namespace CodeBlock.Listing

/-! ## Hexadecimal digits -/

instance (c : Char) (d : Nat) : Decidable (IsHexDigit c d) :=
  inferInstanceAs (Decidable (_ ∧ (_ ∨ _)))

/-- A digit read has its value and is one of the sixteen. -/
theorem isHexDigit_of_hexDigit? {c : Char} {d : Nat} (h : hexDigit? c = some d) :
    IsHexDigit c d := by
  have hsmall : c.toNat < 103 := by
    unfold hexDigit? at h
    split_ifs at h with hdigit hlower hupper
    · exact Nat.lt_of_le_of_lt (Char.isDigit_iff_toNat.1 hdigit).2 (by decide)
    · exact Nat.lt_of_le_of_lt (show c.toNat ≤ 'f'.toNat from hlower.2) (by decide)
    · exact Nat.lt_of_le_of_lt (show c.toNat ≤ 'F'.toNat from hupper.2) (by decide)
  have hall : ∀ n < 103, (hexDigit? (Char.ofNat n)).all (IsHexDigit (Char.ofNat n)) = true := by
    decide +kernel
  have hc := Text.forall_of_toNat_lt (P := fun c => (hexDigit? c).all (IsHexDigit c) = true) hall c hsmall
  simpa [h] using hc

/-- Each of the sixteen digits is read with its value. -/
theorem hexDigit?_of_isHexDigit {c : Char} {d : Nat} (h : IsHexDigit c d) :
    hexDigit? c = some d := by
  obtain ⟨hd, hc⟩ := h
  rcases hc with rfl | rfl <;> interval_cases d <;> rfl

/-- A row of digits is read as one digit after the row before it. -/
theorem hexNumber?_snoc (s : List Char) (c : Char) :
    hexNumber? (s ++ [c]) = (hexNumber? s).bind fun n => (hexDigit? c).map (16 * n + ·) := by
  unfold hexNumber?
  rw [List.foldlM_append]
  simp

theorem hexNumber?_of_isHexRow {s : List Char} {n : Nat} (h : IsHexRow s n) :
    hexNumber? s = some n := by
  induction h with
  | nil => rfl
  | snoc _ hc ih => simp [hexNumber?_snoc, ih, hexDigit?_of_isHexDigit hc]

theorem isHexRow_of_hexNumber? {s : List Char} {n : Nat} (h : hexNumber? s = some n) :
    IsHexRow s n := by
  induction s using List.reverseRec generalizing n with
  | nil =>
      obtain rfl : 0 = n := Option.some.inj h
      exact .nil
  | append_singleton s c ih =>
      rw [hexNumber?_snoc, Option.bind_eq_some_iff] at h
      obtain ⟨m, hm, h⟩ := h
      rw [Option.map_eq_some_iff] at h
      obtain ⟨d, hd, rfl⟩ := h
      exact .snoc (ih hm) (isHexDigit_of_hexDigit? hd)

theorem hexDigit?_of_mem {s : List Char} {n : Nat} (h : IsHexRow s n) {c : Char} (hc : c ∈ s) :
    ∃ d, hexDigit? c = some d := by
  induction h with
  | nil => simp at hc
  | snoc _ hdigit ih =>
      rcases List.mem_append.1 hc with hc | hc
      · exact ih hc
      · rw [List.mem_singleton.1 hc]
        exact ⟨_, hexDigit?_of_isHexDigit hdigit⟩

theorem not_mem_of_isHexRow {s : List Char} {n : Nat} (h : IsHexRow s n) {c : Char}
    (hc : hexDigit? c = none) : c ∉ s := by
  intro hmem
  obtain ⟨d, hd⟩ := hexDigit?_of_mem h hmem
  rw [hc] at hd
  exact absurd hd (by simp)

/-! ## Code points -/

/-- A character is read from its code point and from nothing else. -/
theorem charOfCode?_eq_some_iff {n : Nat} {c : Char} : charOfCode? n = some c ↔ c.toNat = n := by
  unfold charOfCode?
  constructor
  · intro h
    split_ifs at h with hvalid
    rw [Option.some.injEq] at h
    rw [← h, Text.toNat_ofNat hvalid]
  · rintro rfl
    have hvalid : c.toNat.isValidChar := c.valid
    rw [if_pos hvalid, Char.ofNat_toNat]

/-! ## Escapes -/

theorem readCode_of_isHexRow {digits : List Char} {c : Char} (h : IsHexRow digits c.toNat)
    (rest : List Char) : readCode digits.length (digits ++ rest) = some (c, rest) := by
  have hlength : ¬ (digits ++ rest).length < digits.length := by simp
  unfold readCode
  rw [if_neg hlength]
  simp [hexNumber?_of_isHexRow h, charOfCode?_eq_some_iff.2 rfl]

theorem isHexRow_of_readCode {count : Nat} {s rest : List Char} {c : Char}
    (h : readCode count s = some (c, rest)) :
    ∃ digits, digits.length = count ∧ s = digits ++ rest ∧ IsHexRow digits c.toNat := by
  unfold readCode at h
  split_ifs at h with hshort
  simp only [Option.bind_eq_bind, Option.bind_eq_some_iff, Option.pure_def, Option.some.injEq,
    Prod.mk.injEq] at h
  obtain ⟨n, hn, c', hc, rfl, rfl⟩ := h
  refine ⟨s.take count, ?_, (List.take_append_drop count s).symm, ?_⟩
  · rw [List.length_take]
    omega
  · rw [charOfCode?_eq_some_iff.1 hc]
    exact isHexRow_of_hexNumber? hn

/-- Digits in braces are read with their value, with or without a plus sign. -/
theorem bracedCode?_of_isHexRow {sign digits : List Char} {c : Char} (hsign : sign ∈ [[], ['+']])
    (hne : digits ≠ []) (h : IsHexRow digits c.toNat) :
    bracedCode? (sign ++ digits) = some c.toNat := by
  have hcode : c.toNat < 4294967296 := c.val.toNat_lt
  have hempty : digits.isEmpty = false := by simpa using hne
  have hread := hexNumber?_of_isHexRow h
  unfold bracedCode? code?
  simp only [List.mem_cons, List.not_mem_nil, or_false] at hsign
  rcases hsign with rfl | rfl
  · cases digits with
    | nil => exact absurd rfl hne
    | cons d digits =>
        have hd : d ≠ '+' := by
          rintro rfl
          exact not_mem_of_isHexRow h (by decide) List.mem_cons_self
        simp [hd, hread, hcode]
  · simp [hempty, hread, hcode]

/-- What is read as a number of 32 bits is a row of digits. -/
theorem isHexRow_of_code? {digits : List Char} {n : Nat} (h : code? digits = some n) :
    digits ≠ [] ∧ IsHexRow digits n := by
  unfold code? at h
  split_ifs at h with hempty
  split at h
  · rename_i m hm
    split_ifs at h with hsmall
    rw [Option.some.injEq] at h
    subst h
    exact ⟨by simpa using hempty, isHexRow_of_hexNumber? hm⟩
  · exact absurd h (by simp)

theorem isHexRow_of_bracedCode? {s : List Char} {n : Nat} (h : bracedCode? s = some n) :
    ∃ sign digits, sign ∈ [[], ['+']] ∧ digits ≠ [] ∧ s = sign ++ digits ∧ IsHexRow digits n := by
  unfold bracedCode? at h
  split at h
  · rename_i digits
    obtain ⟨hne, hdigits⟩ := isHexRow_of_code? h
    exact ⟨['+'], digits, by simp, hne, rfl, hdigits⟩
  · obtain ⟨hne, hdigits⟩ := isHexRow_of_code? h
    exact ⟨[], s, by simp, hne, rfl, hdigits⟩

/-- An escape of the grammar is read, whatever comes after it. -/
theorem readEscape_of_isEscape {e : List Char} {c : Char} (h : IsEscape e c) (rest : List Char) :
    readEscape (e ++ rest) = some (c, rest) := by
  cases h with
  | named hmem =>
      simp only [namedEscapes, List.mem_cons, Prod.mk.injEq, List.not_mem_nil, or_false] at hmem
      rcases hmem with ⟨rfl, rfl⟩ | ⟨rfl, rfl⟩ | ⟨rfl, rfl⟩ | ⟨rfl, rfl⟩ | ⟨rfl, rfl⟩ |
        ⟨rfl, rfl⟩ | ⟨rfl, rfl⟩ <;> rfl
  | @code2 digits _ hlength hrow =>
      have hread := readCode_of_isHexRow hrow rest
      rw [hlength] at hread
      exact hread
  | @code4 digits _ hlength hrow =>
      have hread := readCode_of_isHexRow hrow rest
      rw [hlength] at hread
      cases digits with
      | nil => simp at hlength
      | cons d digits =>
          -- four digits are not taken for a braced code
          have hd : d ≠ '\x7b' := by
            rintro rfl
            exact not_mem_of_isHexRow hrow (by decide) List.mem_cons_self
          simp only [List.cons_append] at hread ⊢
          rw [readEscape.eq_def]
          simp [hd, hread]
  | @braced sign digits _ hsign hne hrow =>
      -- no sign and no digit closes the brace
      have hbrace : ∀ x ∈ sign ++ digits, (x != '\x7d') = true := by
        intro x hx
        rw [bne_iff_ne]
        rintro rfl
        rcases List.mem_append.1 hx with hx | hx
        · simp only [List.mem_cons, List.not_mem_nil, or_false] at hsign
          rcases hsign with rfl | rfl <;> simp at hx
        · exact not_mem_of_isHexRow hrow (by decide) hx
      have hspan : (sign ++ digits ++ '\x7d' :: rest).span (· != '\x7d') =
          (sign ++ digits, '\x7d' :: rest) := Text.span_append hbrace (by simp)
      have hcode := bracedCode?_of_isHexRow hsign hne hrow
      simp only [List.cons_append, List.append_assoc, List.nil_append] at hspan ⊢
      simp only [readEscape, hspan]
      simp [hcode, charOfCode?_eq_some_iff.2 rfl]
  | @itself _ hnamed hx hu =>
      simp only [namedEscapes, List.map_cons, List.map_nil, List.mem_cons, List.not_mem_nil, or_false,
        not_or] at hnamed
      obtain ⟨hn, ht, hr, hb, hf, hv, h0⟩ := hnamed
      simp only [List.cons_append, List.nil_append]
      unfold readEscape
      split <;> simp_all

theorem isEscape_of_readEscape {s rest : List Char} {c : Char} (h : readEscape s = some (c, rest)) :
    ∃ e, s = e ++ rest ∧ IsEscape e c := by
  unfold readEscape at h
  split at h
  case h_1 => exact absurd h (by simp)
  case h_9 t =>
    obtain ⟨digits, hlength, rfl, hrow⟩ := isHexRow_of_readCode h
    exact ⟨'x' :: digits, rfl, .code2 hlength hrow⟩
  case h_10 t =>
    split at h
    · rename_i inner x after hspan
      simp only [Option.bind_eq_bind, Option.bind_eq_some_iff, Option.pure_def, Option.some.injEq,
        Prod.mk.injEq] at h
      obtain ⟨n, hn, c', hc, rfl, rfl⟩ := h
      obtain ⟨sign, digits, hsign, hne, rfl, hrow⟩ := isHexRow_of_bracedCode? hn
      rw [List.span_eq_takeWhile_dropWhile, Prod.mk.injEq] at hspan
      -- the code goes up to the first brace that closes it
      have hx : x = '\x7d' := by
        have := List.head?_dropWhile_not (· != '\x7d') t
        simpa [hspan.2] using this
      have ht : t = sign ++ digits ++ '\x7d' :: after := by
        rw [← hx, ← hspan.1, ← hspan.2, List.takeWhile_append_dropWhile]
      rw [← charOfCode?_eq_some_iff.1 hc] at hrow
      refine ⟨'u' :: '\x7b' :: sign ++ digits ++ ['\x7d'], ?_, .braced hsign hne hrow⟩
      simp [ht]
    · exact absurd h (by simp)
  case h_11 t _ =>
    obtain ⟨digits, hlength, rfl, hrow⟩ := isHexRow_of_readCode h
    exact ⟨'u' :: digits, rfl, .code4 hlength hrow⟩
  all_goals
    simp only [Option.some.injEq, Prod.mk.injEq] at h
    obtain ⟨rfl, rfl⟩ := h
  case h_12 d rest hn ht hr hb hf hv h0 hx _ hu =>
    have hnamed : d ∉ namedEscapes.map Prod.fst := by
      simp only [namedEscapes, List.map_cons, List.map_nil, List.mem_cons, List.not_mem_nil, or_false]
      tauto
    exact ⟨[d], rfl, .itself hnamed hx hu⟩
  all_goals exact ⟨[_], rfl, .named (by decide)⟩

/-! ## Bodies -/

/-- A body of the grammar is read up to its quote. The characters read before stand in front of its
    text. -/
theorem readText_of_isBody {quote : Char} {body text : List Char} (hquote : quote ≠ '\\')
    (h : IsBody quote body text) (rest done : List Char) {fuel : Nat} (hfuel : body.length < fuel) :
    readText quote done fuel (body ++ quote :: rest) = some (done.reverse ++ text, rest) := by
  induction h generalizing done fuel with
  | nil =>
      obtain ⟨fuel, rfl⟩ := Nat.exists_eq_succ_of_ne_zero (Nat.ne_of_gt hfuel)
      simp [readText]
  | @plain c body text hc hslash _ ih =>
      obtain ⟨fuel, rfl⟩ := Nat.exists_eq_succ_of_ne_zero (Nat.ne_of_gt (Nat.zero_lt_of_lt hfuel))
      have hbody : body.length < fuel := by simpa using hfuel
      have hread := ih (c :: done) hbody
      simp only [List.cons_append, readText, if_neg hc, if_neg hslash, hread]
      simp
  | @escape e c body text hescape _ ih =>
      obtain ⟨fuel, rfl⟩ := Nat.exists_eq_succ_of_ne_zero (Nat.ne_of_gt (Nat.zero_lt_of_lt hfuel))
      have hbody : body.length < fuel := by
        simp only [List.length_cons, List.length_append] at hfuel
        omega
      have hread := ih (c :: done) hbody
      have hchar := readEscape_of_isEscape hescape (body ++ quote :: rest)
      simp only [List.cons_append, List.append_assoc, readText, if_neg (Ne.symm hquote), if_pos, hchar,
        hread]
      simp

theorem isBody_of_readText {quote : Char} {fuel : Nat} {s done rest text : List Char}
    (h : readText quote done fuel s = some (text, rest)) :
    ∃ body tail, s = body ++ quote :: rest ∧ text = done.reverse ++ tail ∧ IsBody quote body tail := by
  induction fuel generalizing s done with
  | zero => simp [readText] at h
  | succ fuel ih =>
      cases s with
      | nil => simp [readText] at h
      | cons c s =>
          simp only [readText] at h
          split_ifs at h with hquote hslash
          · simp only [Option.some.injEq, Prod.mk.injEq] at h
            obtain ⟨rfl, rfl⟩ := h
            exact ⟨[], [], by simp [hquote], by simp, .nil⟩
          · split at h
            · rename_i d after hescape
              obtain ⟨e, rfl, he⟩ := isEscape_of_readEscape hescape
              obtain ⟨body, tail, rfl, rfl, hbody⟩ := ih h
              refine ⟨'\\' :: e ++ body, d :: tail, ?_, ?_, .escape he hbody⟩
              · simp [hslash]
              · simp
            · exact absurd h (by simp)
          · obtain ⟨body, tail, rfl, rfl, hbody⟩ := ih h
            exact ⟨c :: body, c :: tail, rfl, by simp, .plain hquote hslash hbody⟩

end CodeBlock.Listing
