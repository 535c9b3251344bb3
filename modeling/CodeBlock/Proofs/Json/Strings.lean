import CodeBlock.Proofs.Json.Grammar
import CodeBlock.Proofs.Json.Structures
import CodeBlock.Proofs.Listing.Texts

set_option autoImplicit false

/-! # Strings of JSON

The reader of strings takes just the strings that spell a text, and reads each as the text that it spells.
To be skipped a string need not spell any: it is enough that its escapes are written out. -/

namespace CodeBlock.Json

/-! ## Codes -/

theorem readHex_eq_ok_iff {s rest : List Char} {n : Nat} :
    readHex s = .ok (n, rest) ↔ ∃ digits, IsCode digits n ∧ s = digits ++ rest := by
  constructor
  · intro h
    unfold readHex at h
    split at h
    · rename_i a b c d after
      split at h
      · rename_i m hm
        cases h
        exact ⟨[a, b, c, d], ⟨rfl, hm⟩, rfl⟩
      · cases h
    · split_ifs at h
      cases h
  · rintro ⟨digits, ⟨hlength, hnumber⟩, rfl⟩
    match digits, hlength with
    | [a, b, c, d], _ => simp only [List.cons_append, List.nil_append, readHex, hnumber]

theorem IsCode.readHex {digits : List Char} {n : Nat} (h : IsCode digits n) (rest : List Char) :
    readHex (digits ++ rest) = .ok (n, rest) :=
  readHex_eq_ok_iff.2 ⟨digits, h, rfl⟩

theorem lt_of_isHexRow {digits : List Char} {n : Nat} (h : Listing.IsHexRow digits n) :
    n < 16 ^ digits.length := by
  induction h with
  | nil => decide
  | @snoc s n c d _ hd ih =>
      have hlt := hd.1
      rw [List.length_append, List.length_singleton, Nat.pow_succ]
      omega

theorem IsCode.isHexRow {digits : List Char} {n : Nat} (h : IsCode digits n) : Listing.IsHexRow digits n :=
  Listing.isHexRow_of_hexNumber? h.2

/-- A code has sixteen bits. -/
theorem IsCode.lt {digits : List Char} {n : Nat} (h : IsCode digits n) : n < 0x10000 := by
  have hlt := lt_of_isHexRow h.isHexRow
  rw [h.1] at hlt
  omega

/-! ## Escapes -/

/-- The second half of a pair gives the character of both. -/
theorem readTrailing_eq_ok_iff {leading : Nat} {s rest : List Char} {c : Char} :
    readTrailing leading s = .ok (c, rest) ↔
      ∃ low l, IsCode low l ∧ 0xDC00 ≤ l ∧ l ≤ 0xDFFF ∧ s = '\\' :: 'u' :: (low ++ rest) ∧
        c = Char.ofNat ((leading - 0xD800) * 0x400 + (l - 0xDC00) + 0x10000) := by
  constructor
  · intro h
    unfold readTrailing at h
    split at h
    · cases h
    · cases h
    · obtain ⟨⟨l, _⟩, hhex, hhalf⟩ := exists_of_bind_eq_ok h
      obtain ⟨low, hlow, rfl⟩ := readHex_eq_ok_iff.1 hhex
      dsimp only at hhalf
      split_ifs at hhalf
      · cases hhalf
      · simp only [Except.ok.injEq, Prod.mk.injEq] at hhalf
        obtain ⟨rfl, rfl⟩ := hhalf
        exact ⟨low, l, hlow, by omega, by omega, rfl, rfl⟩
    · cases h
    · cases h
  · rintro ⟨low, l, hlow, hmin, hmax, rfl, hc⟩
    have hhalf : ¬ (l < 0xDC00 ∨ 0xDFFF < l) := by omega
    simp only [readTrailing, bind_of_eq_ok (hlow.readHex rest), if_neg hhalf, hc]

/-- What follows a backslash is read as the character that it stands for. -/
theorem readEscape_eq_ok_iff {s rest : List Char} {c : Char} :
    readEscape s = .ok (c, rest) ↔ ∃ e, IsEscape e c ∧ s = e ++ rest := by
  constructor
  · intro h
    unfold readEscape at h
    split at h
    · cases h
    · obtain ⟨⟨n, _⟩, hhex, hcode⟩ := exists_of_bind_eq_ok h
      obtain ⟨digits, hdigits, rfl⟩ := readHex_eq_ok_iff.1 hhex
      have hlt := hdigits.lt
      dsimp only at hcode
      split_ifs at hcode with hlow hhigh
      · cases hcode
      · obtain ⟨low, l, hhalf, hmin, hmax, rfl, hc⟩ := readTrailing_eq_ok_iff.1 hcode
        -- two halves make a code point beyond all the halves
        have hvalid : ((n - 0xD800) * 0x400 + (l - 0xDC00) + 0x10000).isValidChar := by
          rw [Nat.isValidChar]
          omega
        refine ⟨_, .pair hdigits hhalf hhigh.1 hhigh.2 hmin hmax ?_, by simp⟩
        rw [hc, Text.toNat_ofNat hvalid]
      · simp only [Except.ok.injEq, Prod.mk.injEq] at hcode
        obtain ⟨rfl, rfl⟩ := hcode
        -- what is no half is a code point by itself
        have hvalid : n.isValidChar := by
          rw [Nat.isValidChar]
          omega
        exact ⟨'u' :: digits, .code (by rwa [Text.toNat_ofNat hvalid]), rfl⟩
    · rename_i d after _
      split at h
      · rename_i e he
        cases h
        exact ⟨[d], .short he, rfl⟩
      · cases h
  · rintro ⟨e, he, rfl⟩
    cases he with
    | @short d _ hd =>
        rw [List.singleton_append, readEscape, hd]
        rintro rfl
        cases hd
    | @code digits _ hdigits =>
        have hvalid : c.toNat < 0xD800 ∨ 0xDFFF < c.toNat ∧ c.toNat < 0x110000 := c.valid
        rw [List.cons_append, readEscape, bind_of_eq_ok (hdigits.readHex rest)]
        dsimp only
        rw [if_neg (by omega), if_neg (by omega), Char.ofNat_toNat]
    | @pair high low h l _ hhigh hlow hmin hmax hmin' hmax' hc =>
        have htrailing : readTrailing h ('\\' :: 'u' :: low ++ rest) = .ok (c, rest) :=
          readTrailing_eq_ok_iff.2 ⟨low, l, hlow, hmin', hmax', rfl, by rw [← hc, Char.ofNat_toNat]⟩
        rw [List.append_assoc, List.cons_append, readEscape, bind_of_eq_ok (hhigh.readHex _)]
        dsimp only
        rw [if_neg (by omega), if_pos ⟨hmin, hmax⟩, htrailing]

/-! ## Reading -/

/-- The front of a text has no more characters than the text. -/
theorem lt_length_append_add_one (part rest : List Char) : part.length < (part ++ rest).length + 1 := by
  rw [List.length_append]
  omega

theorem spells_of_readStringFrom {done : List Char} {fuel : Nat} {s rest : List Char} {text : String}
    (h : readStringFrom done fuel s = .ok (text, rest)) :
    ∃ body tail, Spells body tail ∧ s = body ++ '"' :: rest ∧
      text = String.ofList (done.reverse ++ tail) := by
  induction fuel generalizing done s with
  | zero => cases h
  | succ fuel ih =>
      cases s with
      | nil => cases h
      | cons c s =>
          rw [readStringFrom] at h
          split_ifs at h with hquote hslash hcontrol
          · cases h
            exact ⟨[], [], .nil, by rw [hquote, List.nil_append], by rw [List.append_nil]⟩
          · split at h
            · rename_i e after hescape
              obtain ⟨escape, hmeans, rfl⟩ := readEscape_eq_ok_iff.1 hescape
              obtain ⟨body, tail, hbody, rfl, rfl⟩ := ih h
              exact ⟨'\\' :: escape ++ body, e :: tail, .escape hmeans hbody, by simp [hslash], by simp⟩
            · cases h
          · cases h
          · obtain ⟨body, tail, hbody, rfl, rfl⟩ := ih h
            exact ⟨c :: body, c :: tail, .plain hquote hslash (by omega) hbody, rfl, by simp⟩

theorem Spells.readStringFrom {body tail : List Char} (h : Spells body tail) {done : List Char} {fuel : Nat}
    (hfuel : body.length < fuel) (rest : List Char) :
    readStringFrom done fuel (body ++ '"' :: rest) = .ok (String.ofList (done.reverse ++ tail), rest) := by
  obtain ⟨fuel, rfl⟩ := Nat.exists_eq_succ_of_ne_zero (n := fuel) (by omega)
  -- each step takes one unit of fuel and at least one character of the body
  induction h generalizing done fuel with
  | nil => simp [Json.readStringFrom]
  | @plain c body tail hquote hslash hcontrol _ ih =>
      rw [List.length_cons] at hfuel
      obtain ⟨fuel, rfl⟩ := Nat.exists_eq_succ_of_ne_zero (n := fuel) (by omega)
      have hplain : ¬ c.toNat < 0x20 := by omega
      rw [List.cons_append, Json.readStringFrom, if_neg hquote, if_neg hslash, if_neg hplain,
        ih fuel (by omega)]
      simp
  | @escape e body tail c he _ ih =>
      simp only [List.length_append, List.length_cons] at hfuel
      obtain ⟨fuel, rfl⟩ := Nat.exists_eq_succ_of_ne_zero (n := fuel) (by omega)
      have hread : readEscape (e ++ (body ++ '"' :: rest)) = .ok (c, body ++ '"' :: rest) :=
        readEscape_eq_ok_iff.2 ⟨e, he, rfl⟩
      rw [List.append_assoc, List.cons_append, Json.readStringFrom, if_neg (by decide), if_pos rfl, hread]
      simp only
      rw [ih fuel (by omega)]
      simp

theorem readString_eq_ok_iff {s rest : List Char} {text : String} :
    readString s = .ok (text, rest) ↔ ∃ body, Spells body text.toList ∧ s = body ++ '"' :: rest := by
  constructor
  · intro h
    obtain ⟨body, tail, hbody, hs, rfl⟩ := spells_of_readStringFrom h
    exact ⟨body, by simpa using hbody, hs⟩
  · rintro ⟨body, hbody, rfl⟩
    rw [readString, hbody.readStringFrom (lt_length_append_add_one _ _)]
    simp

theorem Spells.readString {body : List Char} {text : String} (h : Spells body text.toList)
    (rest : List Char) : readString (body ++ '"' :: rest) = .ok (text, rest) :=
  readString_eq_ok_iff.2 ⟨body, h, rfl⟩

/-! ## Skipping -/

theorem isStringBody_of_skipStringFrom {fuel : Nat} {s rest : List Char}
    (h : skipStringFrom fuel s = .ok rest) : ∃ body, IsStringBody body ∧ s = body ++ '"' :: rest := by
  induction fuel generalizing s with
  | zero => cases h
  | succ fuel ih =>
      cases s with
      | nil => cases h
      | cons c s =>
          rw [skipStringFrom.eq_def] at h
          dsimp only at h
          split_ifs at h with hquote hslash hcontrol
          · cases h
            exact ⟨[], .nil, by rw [hquote, List.nil_append]⟩
          · split at h
            · cases h
            · split at h
              · rename_i hhex
                obtain ⟨digits, hdigits, rfl⟩ := readHex_eq_ok_iff.1 hhex
                obtain ⟨body, hbody, rfl⟩ := ih h
                exact ⟨'\\' :: 'u' :: digits ++ body, .code hdigits hbody, by simp [hslash]⟩
              · cases h
            · rename_i e after _
              split_ifs at h with hshort
              · obtain ⟨d, hd⟩ := Option.isSome_iff_exists.1 hshort
                obtain ⟨body, hbody, rfl⟩ := ih h
                exact ⟨'\\' :: e :: body, .short hd hbody, by simp [hslash]⟩
              · cases h
          · cases h
          · obtain ⟨body, hbody, rfl⟩ := ih h
            exact ⟨c :: body, .plain hquote hslash (by omega) hbody, rfl⟩

theorem IsStringBody.skipStringFrom {body : List Char} (h : IsStringBody body) {fuel : Nat}
    (hfuel : body.length < fuel) (rest : List Char) :
    skipStringFrom fuel (body ++ '"' :: rest) = .ok rest := by
  obtain ⟨fuel, rfl⟩ := Nat.exists_eq_succ_of_ne_zero (n := fuel) (by omega)
  induction h generalizing fuel with
  | nil => simp [Json.skipStringFrom]
  | @plain c body hquote hslash hcontrol _ ih =>
      rw [List.length_cons] at hfuel
      obtain ⟨fuel, rfl⟩ := Nat.exists_eq_succ_of_ne_zero (n := fuel) (by omega)
      have hplain : ¬ c.toNat < 0x20 := by omega
      simp [Json.skipStringFrom, hquote, hslash, hplain, ih fuel (by omega)]
  | @short c d body hd _ ih =>
      simp only [List.length_cons] at hfuel
      obtain ⟨fuel, rfl⟩ := Nat.exists_eq_succ_of_ne_zero (n := fuel) (by omega)
      have hu : c ≠ 'u' := by
        rintro rfl
        cases hd
      simp [Json.skipStringFrom, hd, ih fuel (by omega)]
  | @code digits body n hdigits _ ih =>
      simp only [List.length_append, List.length_cons] at hfuel
      obtain ⟨fuel, rfl⟩ := Nat.exists_eq_succ_of_ne_zero (n := fuel) (by omega)
      simp [Json.skipStringFrom, hdigits.readHex, ih fuel (by omega)]

theorem skipString_eq_ok_iff {s rest : List Char} :
    skipString s = .ok rest ↔ ∃ body, IsStringBody body ∧ s = body ++ '"' :: rest := by
  constructor
  · exact isStringBody_of_skipStringFrom
  · rintro ⟨body, hbody, rfl⟩
    exact hbody.skipStringFrom (lt_length_append_add_one _ _) rest

theorem IsStringBody.skipString {body : List Char} (h : IsStringBody body) (rest : List Char) :
    skipString (body ++ '"' :: rest) = .ok rest :=
  skipString_eq_ok_iff.2 ⟨body, h, rfl⟩

theorem IsEscape.isStringBody {e body : List Char} {c : Char} (h : IsEscape e c) (hbody : IsStringBody body) :
    IsStringBody ('\\' :: e ++ body) := by
  cases h with
  | short hc => exact .short hc hbody
  | code hdigits => exact .code hdigits hbody
  | pair hhigh hlow =>
      have hpair := IsStringBody.code hhigh (.code hlow hbody)
      simpa using hpair

theorem Spells.isStringBody {body text : List Char} (h : Spells body text) : IsStringBody body := by
  induction h with
  | nil => exact .nil
  | plain hquote hslash hcontrol _ ih => exact .plain hquote hslash hcontrol ih
  | escape he _ ih => exact he.isStringBody ih

end CodeBlock.Json
