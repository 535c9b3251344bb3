import CodeBlock.Proofs.Json.Strings

set_option autoImplicit false

/-! # Strings of JSON in listings

What spells a text in JSON, read by the grammar of listings. Escapes mean the same in both, with one
exception: JSON writes a character beyond the first sixteen bits as a pair of escapes, and the reader of
listings, for which each escape is a character of its own, gives up at the first half of it. Whether a text
has such a pair is seen in the text itself (`hasPair`). -/

namespace CodeBlock.Json

/-! ## Pairs of escapes -/

def isHalf (digits : List Char) : Bool :=
  match hexNumber? digits with
  | some n => decide (0xD800 ≤ n) && decide (n ≤ 0xDFFF)
  | none => false

/-- Whether a text has an escape for one half of a pair; a backslash goes with the character behind it. -/
def hasPair : List Char → Bool
  | [] => false
  | [_] => false
  | c :: d :: rest =>
      if c = '\\' then (d == 'u' && isHalf (rest.take 4)) || hasPair rest else hasPair (d :: rest)

theorem hasPair_cons {c : Char} (hc : c ≠ '\\') (rest : List Char) :
    hasPair (c :: rest) = hasPair rest := by
  cases rest with
  | nil => rfl
  | cons d rest => simp [hasPair, hc]

/-- Looking for pairs in a text ends with the text, whatever follows. -/
def Scans (s : List Char) (paired : Bool) : Prop :=
  ∀ rest, hasPair (s ++ rest) = (paired || hasPair rest)

theorem Scans.append {s t : List Char} {p q : Bool} (hs : Scans s p) (ht : Scans t q) :
    Scans (s ++ t) (p || q) := by
  intro rest
  rw [List.append_assoc, hs, ht, Bool.or_assoc]

/-- Without a backslash there is no pair. -/
theorem scans_of_notMem {s : List Char} (h : '\\' ∉ s) : Scans s false := by
  intro rest
  induction s with
  | nil => rfl
  | cons c s ih =>
      rw [List.mem_cons, not_or] at h
      rw [List.cons_append, hasPair_cons (Ne.symm h.1), ih h.2]

/-- An escape of one character is no half of a pair, unless a code follows. -/
theorem scans_escape {c : Char} (hc : c ≠ 'u') : Scans ['\\', c] false := by
  intro rest
  simp [hasPair, hc]

/-! ## Codes -/

theorem IsCode.scans {digits : List Char} {n : Nat} (h : IsCode digits n) :
    Scans ('\\' :: 'u' :: digits) (decide (0xD800 ≤ n) && decide (n ≤ 0xDFFF)) := by
  intro rest
  have htake : (digits ++ rest).take 4 = digits := by rw [← h.1, List.take_left]
  have hslash : '\\' ∉ digits := Listing.not_mem_of_isHexRow h.isHexRow (by decide)
  have hrest := scans_of_notMem hslash rest
  simp [hasPair, htake, isHalf, h.2, hrest]

/-- The reader of listings refuses the code of a half. -/
theorem IsCode.readEscape_of_half {digits : List Char} {n : Nat} (h : IsCode digits n) (hmin : 0xD800 ≤ n)
    (hmax : n ≤ 0xDFFF) (rest : List Char) : Listing.readEscape ('u' :: digits ++ rest) = none := by
  have hinvalid : ¬ n.isValidChar := by
    rw [Nat.isValidChar]
    omega
  have hcode : Listing.readCode 4 (digits ++ rest) = none := by
    unfold Listing.readCode
    rw [← h.1, List.take_left, Listing.hexNumber?_of_isHexRow h.isHexRow]
    simp [Listing.charOfCode?, hinvalid]
  cases digits with
  | nil => cases h.1
  | cons d digits =>
      have hd : d ≠ '\x7b' := by
        rintro rfl
        exact Listing.not_mem_of_isHexRow h.isHexRow (by decide) List.mem_cons_self
      rw [List.cons_append] at hcode
      rw [List.cons_append, List.cons_append, Listing.readEscape.eq_def]
      simp [hd, hcode]

/-! ## Escapes -/

/-- A short escape means the same in both formats. -/
theorem isEscape_of_shortEscape? {c d : Char} (h : shortEscape? c = some d) :
    Listing.IsEscape [c] d ∧ c ≠ 'u' := by
  unfold shortEscape? at h
  split at h
  case h_9 => exact absurd h (by simp)
  all_goals
    rw [Option.some.injEq] at h
    subst h
  · exact ⟨.itself (by decide) (by decide) (by decide), by decide⟩
  · exact ⟨.itself (by decide) (by decide) (by decide), by decide⟩
  · exact ⟨.itself (by decide) (by decide) (by decide), by decide⟩
  all_goals exact ⟨.named (by decide), by decide⟩

/-- An escape means the same in listings, or it is a pair, which their reader refuses. -/
theorem IsEscape.isEscape_or_pair {e : List Char} {c : Char} (h : IsEscape e c) :
    Scans ('\\' :: e) false ∧ Listing.IsEscape e c ∨
      Scans ('\\' :: e) true ∧ ∀ more, Listing.readEscape (e ++ more) = none := by
  cases h with
  | short hshort =>
      obtain ⟨hescape, hu⟩ := isEscape_of_shortEscape? hshort
      exact .inl ⟨scans_escape hu, hescape⟩
  | code hdigits =>
      -- a character is no half
      have hvalid : c.toNat < 0xD800 ∨ 0xDFFF < c.toNat ∧ c.toNat < 0x110000 := c.valid
      have hwhole : (decide (0xD800 ≤ c.toNat) && decide (c.toNat ≤ 0xDFFF)) = false := by
        simp only [Bool.and_eq_false_iff, decide_eq_false_iff_not]
        omega
      have hscans := hdigits.scans
      rw [hwhole] at hscans
      exact .inl ⟨hscans, .code4 hdigits.1 hdigits.isHexRow⟩
  | @pair high low n _ _ hhigh _ hmin hmax _ _ _ =>
      have hhalf : (decide (0xD800 ≤ n) && decide (n ≤ 0xDFFF)) = true := by
        simp only [Bool.and_eq_true, decide_eq_true_eq]
        omega
      have hscans := hhigh.scans
      rw [hhalf] at hscans
      refine .inr ⟨fun more => ?_, fun more => ?_⟩
      · have hfirst := hscans ('\\' :: 'u' :: low ++ more)
        simpa using hfirst
      · rw [List.append_assoc]
        exact hhigh.readEscape_of_half hmin (by omega) _

/-! ## Strings -/

/-- What spells a text spells it in listings, or it has a pair, and their reader does not come to its end. -/
theorem Spells.isBody_or_pair {body text : List Char} (h : Spells body text) :
    Scans body false ∧ Listing.IsBody '"' body text ∨
      Scans body true ∧ ∀ done fuel more, Listing.readText '"' done fuel (body ++ more) = none := by
  induction h with
  | nil => exact .inl ⟨fun _ => rfl, .nil⟩
  | @plain c body text hquote hslash _ _ ih =>
      have hscans : Scans [c] false := scans_of_notMem (by simpa using Ne.symm hslash)
      rcases ih with ⟨hscans', hbody⟩ | ⟨hscans', hrefused⟩
      · exact .inl ⟨hscans.append hscans', .plain hquote hslash hbody⟩
      · refine .inr ⟨hscans.append hscans', fun done fuel more => ?_⟩
        cases fuel with
        | zero => rfl
        | succ fuel => simp [Listing.readText, hquote, hslash, hrefused]
  | @escape e body text c he _ ih =>
      -- the body has a pair if the escape is one, or if one comes later
      rcases he.isEscape_or_pair with ⟨hscans, hescape⟩ | ⟨hscans, hrefused⟩
      · rcases ih with ⟨hscans', hbody⟩ | ⟨hscans', hrefused⟩
        · exact .inl ⟨hscans.append hscans', .escape hescape hbody⟩
        · refine .inr ⟨hscans.append hscans', fun done fuel more => ?_⟩
          have hread := Listing.readEscape_of_isEscape hescape (body ++ more)
          cases fuel with
          | zero => rfl
          | succ fuel => simp [Listing.readText, hread, hrefused]
      · refine .inr ⟨fun more => ?_, fun done fuel more => ?_⟩
        · have hpair := hscans (body ++ more)
          simpa using hpair
        · have hread := hrefused (body ++ more)
          cases fuel with
          | zero => rfl
          | succ fuel => simp [Listing.readText, hread]

end CodeBlock.Json
