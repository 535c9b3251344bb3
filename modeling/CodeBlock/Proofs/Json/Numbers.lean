import CodeBlock.Proofs.Json.Grammar
import CodeBlock.Proofs.Listing.Numbers
import Mathlib.Data.List.TakeWhile
import Mathlib.Tactic.SplitIfs

set_option autoImplicit false

/-! # Numbers of JSON

What is read as a number is one of the grammar, and it is read the same wherever it stands: the readers of
digits may stop to count, but they never stop in the middle of a row. Skipping takes just the numbers of the
grammar, of any size. -/

namespace CodeBlock.Json

open Listing (IsDigits IsSign splitSign splitSign_append exists_sign)

/-! ## Rows of digits -/

def EndsDigits (rest : List Char) : Prop := ∀ c ∈ rest.head?, c.isDigit = false

theorem EndsValue.endsDigits {rest : List Char} (h : EndsValue rest) : EndsDigits rest :=
  fun c hc => (h c hc).1

/-- A text is a row of digits and what stands behind it. -/
theorem exists_digits (s : List Char) :
    ∃ digits rest, s = digits ++ rest ∧ (∀ c ∈ digits, c.isDigit = true) ∧ EndsDigits rest := by
  refine ⟨s.takeWhile Char.isDigit, s.dropWhile Char.isDigit, List.takeWhile_append_dropWhile.symm,
    fun c => List.mem_takeWhile_imp, fun c hc => ?_⟩
  have hhead := List.head?_dropWhile_not Char.isDigit s
  rw [Option.mem_def.1 hc] at hhead
  simpa using hhead

theorem dropWhile_isDigit {digits rest : List Char} (hdigits : ∀ c ∈ digits, c.isDigit = true)
    (hrest : EndsDigits rest) : (digits ++ rest).dropWhile Char.isDigit = rest := by
  rw [List.dropWhile_append_of_pos hdigits]
  cases rest with
  | nil => rfl
  | cons c rest => simp [hrest c rfl]

theorem exists_gather {digits : List Char} (hdigits : ∀ c ∈ digits, c.isDigit = true)
    (value kept dropped : Nat) :
    ∃ v k d, k + d = kept + dropped + digits.length ∧
      (value ≤ gatherLimit → v ≤ gatherLimit) ∧
      (d = 0 → dropped = 0 ∧ v = Nat.ofDigitChars 10 digits value) ∧
      ∀ ⦃rest⦄, EndsDigits rest → gather value kept dropped (digits ++ rest) = (v, k, d, rest) := by
  induction digits generalizing value kept dropped with
  | nil =>
      refine ⟨value, kept, dropped, rfl, id, fun hd => ⟨hd, rfl⟩, fun rest hrest => ?_⟩
      cases rest with
      | nil => rfl
      | cons c rest => simp [gather, hrest c rfl]
  | cons c digits ih =>
      rw [List.forall_mem_cons] at hdigits
      -- a digit is kept just if all before it were, and the number with it is still below the limit
      by_cases hfits : dropped = 0 ∧ value * 10 + (c.toNat - 48) ≤ gatherLimit
      · obtain ⟨v, k, d, hcount, hlimit, hvalue, hgather⟩ :=
          ih hdigits.2 (value * 10 + (c.toNat - 48)) (kept + 1) 0
        refine ⟨v, k, d, ?_, fun _ => hlimit hfits.2, fun hd => ⟨hfits.1, ?_⟩, fun rest hrest => ?_⟩
        · rw [hcount, List.length_cons]
          omega
        · rw [(hvalue hd).2, Nat.ofDigitChars_cons, Nat.mul_comm]
          rfl
        · simp only [List.cons_append, gather, hdigits.1, if_true, if_pos hfits, hgather hrest]
      · obtain ⟨v, k, d, hcount, hlimit, hvalue, hgather⟩ := ih hdigits.2 value kept (dropped + 1)
        refine ⟨v, k, d, ?_, hlimit, fun hd => absurd (hvalue hd).1 (by simp), fun rest hrest => ?_⟩
        · rw [hcount, List.length_cons]
          omega
        · simp only [List.cons_append, gather, hdigits.1, if_true, if_neg hfits, hgather hrest]

theorem exists_gatherPower {digits : List Char} (hdigits : ∀ c ∈ digits, c.isDigit = true) (power : Nat) :
    ∃ p beyond more, (∀ c ∈ more, c.isDigit = true) ∧ (beyond = false → more = []) ∧
      ∀ ⦃rest⦄, EndsDigits rest → gatherPower power (digits ++ rest) = (p, beyond, more ++ rest) := by
  induction digits generalizing power with
  | nil =>
      refine ⟨power, false, [], by simp, fun _ => rfl, fun rest hrest => ?_⟩
      cases rest with
      | nil => rfl
      | cons c rest => simp [gatherPower, hrest c rfl]
  | cons c digits ih =>
      rw [List.forall_mem_cons] at hdigits
      by_cases hlimit : powerLimit < power * 10 + (c.toNat - 48)
      · refine ⟨power, true, digits, hdigits.2, by simp, fun rest _ => ?_⟩
        simp only [List.cons_append, gatherPower, hdigits.1, if_true, if_pos hlimit]
      · obtain ⟨p, beyond, more, hmore, hend, hgather⟩ := ih hdigits.2 (power * 10 + (c.toNat - 48))
        refine ⟨p, beyond, more, hmore, hend, fun rest hrest => ?_⟩
        simp only [List.cons_append, gatherPower, hdigits.1, if_true, if_neg hlimit, hgather hrest]

/-! ## Reading -/

/-- Whether what a reader takes is a part of a grammar, which it reads the same in front of all that may
    stand behind a value. -/
def Takes {α : Type} (P : List Char → Prop) (read : List Char → Except Failure (α × List Char)) : Prop :=
  ∀ ⦃s x rest⦄, read s = .ok (x, rest) →
    ∃ part, P part ∧ s = part ++ rest ∧ ∀ ⦃after⦄, EndsValue after → read (part ++ after) = .ok (x, after)

variable {positive : Bool} {significand value dropped : Nat} {exponent : Int}

theorem takes_readScaled : Takes (· = []) (readScaled positive significand exponent) := by
  intro s j rest h
  unfold readScaled at h
  split at h
  · rename_i x hscale
    cases h
    refine ⟨[], rfl, rfl, fun after _ => ?_⟩
    simp only [List.nil_append, readScaled, hscale]
  · cases h

/-- Reads a power of ten behind its letter and its sign. -/
def readExponent (positive upward : Bool) (significand : Nat) (exponent : Int) (s : List Char) :
    Except Failure (Json × List Char) :=
  match s with
  | [] => failHere .endInValue []
  | c :: rest =>
      if c.isDigit then
        let (power, beyond, rest) := gatherPower (c.toNat - 48) rest
        if beyond then
          if significand ≠ 0 ∧ upward then failHere .numberOutOfRange rest
          else .ok (signedZero positive, rest.dropWhile Char.isDigit)
        else readScaled positive significand (if upward then exponent + power else exponent - power) rest
      else failNext .invalidNumber (c :: rest)

theorem takes_readExponent {upward : Bool} :
    Takes IsDigits (readExponent positive upward significand exponent) := by
  intro s j rest h
  cases s with
  | nil => cases h
  | cons c s =>
      by_cases hdigit : c.isDigit = true
      case neg =>
        rw [readExponent, if_neg hdigit] at h
        cases h
      obtain ⟨digits, after, rfl, hdigits, hafter⟩ := exists_digits s
      obtain ⟨p, beyond, more, hmore, hend, hgather⟩ := exists_gatherPower hdigits (c.toNat - 48)
      have hrow : IsDigits (c :: digits) := ⟨by simp, List.forall_mem_cons.2 ⟨hdigit, hdigits⟩⟩
      -- of what follows it matters only that the digits end there
      have hread : ∀ ⦃rest⦄, EndsDigits rest →
          readExponent positive upward significand exponent (c :: (digits ++ rest)) =
            if beyond then
              if significand ≠ 0 ∧ upward then failHere .numberOutOfRange (more ++ rest)
              else .ok (signedZero positive, rest)
            else readScaled positive significand (if upward then exponent + p else exponent - p)
              (more ++ rest) := by
        intro rest hrest
        simp only [readExponent, hdigit, if_true, hgather hrest, dropWhile_isDigit hmore hrest]
      rw [hread hafter] at h
      -- with too many digits there is no scaling, and the number is zero or refused
      cases beyond with
      | true =>
          rw [if_pos rfl] at h
          split_ifs at h with hrange
          · cases h
          · cases h
            refine ⟨c :: digits, hrow, rfl, fun rest' hrest' => ?_⟩
            rw [List.cons_append, hread hrest'.endsDigits, if_pos rfl, if_neg hrange]
      | false =>
          rw [if_neg (by simp), hend rfl, List.nil_append] at h
          obtain ⟨_, rfl, rfl, hscaled⟩ := takes_readScaled h
          refine ⟨c :: digits, hrow, rfl, fun rest' hrest' => ?_⟩
          rw [List.cons_append, hread hrest'.endsDigits, if_neg (by simp), hend rfl]
          exact hscaled hrest'

/-- What starts with no sign has none. -/
theorem splitSign_eq_self {s : List Char} (hplus : ∀ rest, s = '+' :: rest → False)
    (hminus : ∀ rest, s = '-' :: rest → False) : splitSign s = (false, s) := by
  unfold splitSign
  split
  · exact (hplus _ rfl).elim
  · exact (hminus _ rfl).elim
  · rfl

theorem readPower_eq (s : List Char) :
    readPower positive significand exponent s =
      readExponent positive (!(splitSign s).1) significand exponent (splitSign s).2 := by
  unfold readPower
  split
  rename_i hsplit
  split at hsplit
  · cases hsplit
    rfl
  · cases hsplit
    rfl
  · rename_i hplus hminus
    cases hsplit
    rw [splitSign_eq_self hplus hminus]
    rfl

theorem takes_readPower : Takes IsExponent (readPower positive significand exponent) := by
  intro s j rest h
  rw [readPower_eq] at h
  obtain ⟨digits, hdigits, hs, hread⟩ := takes_readExponent h
  obtain ⟨sign, hsplit, hsign⟩ := exists_sign s
  refine ⟨sign ++ digits, .mk hsign hdigits, ?_, fun after hafter => ?_⟩
  · rw [hsplit, hs, List.append_assoc]
  · have hhead : ∀ c ∈ (digits ++ after).head?, c ≠ '+' ∧ c ≠ '-' := by
      intro c hc
      rw [List.head?_append_of_ne_nil _ hdigits.1] at hc
      exact hdigits.head_ne hc
    rw [List.append_assoc, readPower_eq, splitSign_append hsign hhead]
    exact hread hafter

/-- What may follow the digits of a number is a power of ten or nothing. -/
theorem takes_readAfterDigits : Takes IsScale (readAfterDigits positive significand exponent) := by
  intro s j rest h
  unfold readAfterDigits at h
  split at h
  · obtain ⟨power, hpower, rfl, hread⟩ := takes_readPower h
    exact ⟨'e' :: power, .some (by simp) hpower, rfl, fun after hafter => hread hafter⟩
  · obtain ⟨power, hpower, rfl, hread⟩ := takes_readPower h
    exact ⟨'E' :: power, .some (by simp) hpower, rfl, fun after hafter => hread hafter⟩
  · obtain ⟨_, rfl, rfl, hread⟩ := takes_readScaled h
    refine ⟨[], .none, rfl, fun after hafter => ?_⟩
    rw [List.nil_append, readAfterDigits.eq_def]
    split
    · exact absurd rfl (hafter 'e' rfl).2.2.1
    · exact absurd rfl (hafter 'E' rfl).2.2.2
    · exact hread hafter

/-- What may follow a row of digits ends it. -/
theorem IsScale.endsDigits_append {scale rest : List Char} (h : IsScale scale) (hrest : EndsDigits rest) :
    EndsDigits (scale ++ rest) := by
  cases h with
  | none => exact hrest
  | some hletter _ =>
      simp only [List.mem_cons, List.not_mem_nil, or_false] at hletter
      rcases hletter with rfl | rfl <;> simp [EndsDigits]

/-- Behind the point there are digits, and then what may follow them. -/
theorem takes_readFraction :
    Takes (fun s => ∃ digits scale, IsDigits digits ∧ IsScale scale ∧ s = digits ++ scale)
      (readFraction positive significand exponent) := by
  intro s j rest h
  obtain ⟨digits, after, rfl, hdigits, hafter⟩ := exists_digits s
  obtain ⟨v, k, d, hcount, -, -, hgather⟩ := exists_gather hdigits significand 0 0
  -- a point without a digit behind it is refused
  by_cases hnone : k + d = 0
  case pos =>
    rw [readFraction, hgather hafter] at h
    simp only [if_pos hnone] at h
    split at h <;> cases h
  have hread : ∀ ⦃rest⦄, EndsDigits rest →
      readFraction positive significand exponent (digits ++ rest) =
        readAfterDigits positive v (exponent - k) rest := by
    intro rest hrest
    rw [readFraction, hgather hrest]
    exact if_neg hnone
  rw [hread hafter] at h
  obtain ⟨scale, hscale, rfl, hscaled⟩ := takes_readAfterDigits h
  have hrow : IsDigits digits := by
    refine ⟨?_, hdigits⟩
    rintro rfl
    exact hnone hcount
  refine ⟨digits ++ scale, ⟨digits, scale, hrow, hscale, rfl⟩, (List.append_assoc _ _ _).symm,
    fun rest' hrest' => ?_⟩
  rw [List.append_assoc, hread (hscale.endsDigits_append hrest'.endsDigits), hscaled hrest']

theorem takes_readAfterWhole : Takes IsAfterWhole (readAfterWhole positive value dropped) := by
  intro s j rest h
  unfold readAfterWhole at h
  split at h
  · obtain ⟨_, ⟨digits, scale, hdigits, hscale, rfl⟩, rfl, hread⟩ := takes_readFraction h
    exact ⟨'.' :: digits ++ scale, .mk (.some hdigits) hscale, rfl, fun after hafter => hread hafter⟩
  · obtain ⟨power, hpower, rfl, hread⟩ := takes_readPower h
    exact ⟨'e' :: power, .mk .none (.some (by simp) hpower), rfl, fun after hafter => hread hafter⟩
  · obtain ⟨power, hpower, rfl, hread⟩ := takes_readPower h
    exact ⟨'E' :: power, .mk .none (.some (by simp) hpower), rfl, fun after hafter => hread hafter⟩
  · -- nothing follows, and the number depends on its digits alone
    have hend : ∀ ⦃after⦄, EndsValue after → readAfterWhole positive value dropped after =
        if dropped ≠ 0 then readScaled positive value dropped after
        else if positive then .ok (.integer value, after)
        else if value = 0 ∨ 2 ^ 63 < value then readScaled false value 0 after
        else .ok (.integer (-value), after) := by
      intro after hafter
      rw [readAfterWhole.eq_def]
      split
      · exact absurd rfl (hafter '.' rfl).2.1
      · exact absurd rfl (hafter 'e' rfl).2.2.1
      · exact absurd rfl (hafter 'E' rfl).2.2.2
      · rfl
    have hnothing : IsAfterWhole [] := .mk .none .none
    split_ifs at h with hdropped hpositive hrange
    · obtain ⟨_, rfl, rfl, hread⟩ := takes_readScaled h
      refine ⟨[], hnothing, rfl, fun after hafter => ?_⟩
      rw [List.nil_append, hend hafter, if_pos hdropped]
      exact hread hafter
    · cases h
      refine ⟨[], hnothing, rfl, fun after hafter => ?_⟩
      rw [List.nil_append, hend hafter, if_neg hdropped, if_pos hpositive]
    · obtain ⟨_, rfl, rfl, hread⟩ := takes_readScaled h
      refine ⟨[], hnothing, rfl, fun after hafter => ?_⟩
      rw [List.nil_append, hend hafter, if_neg hdropped, if_neg hpositive, if_pos hrange]
      exact hread hafter
    · cases h
      refine ⟨[], hnothing, rfl, fun after hafter => ?_⟩
      rw [List.nil_append, hend hafter, if_neg hdropped, if_neg hpositive, if_neg hrange]

theorem IsAfterWhole.endsDigits_append {part rest : List Char} (h : IsAfterWhole part)
    (hrest : EndsDigits rest) : EndsDigits (part ++ rest) := by
  cases h with
  | mk hfraction hscale =>
      cases hfraction with
      | none => exact hscale.endsDigits_append hrest
      | some _ => simp [EndsDigits]

theorem exists_whole_of_readNumber {s rest : List Char} {j : Json}
    (h : readNumber positive s = .ok (j, rest)) :
    ∃ whole after v d, IsWhole whole ∧ s = whole ++ after ∧ EndsDigits after ∧ v ≤ gatherLimit ∧
      (d = 0 → v = Nat.ofDigitChars 10 whole 0) ∧
      ∀ ⦃rest⦄, EndsDigits rest → readNumber positive (whole ++ rest) = readAfterWhole positive v d rest := by
  cases s with
  | nil => cases h
  | cons c s =>
      obtain ⟨digits, after, rfl, hdigits, hafter⟩ := exists_digits s
      by_cases hc : c = '0'
      · subst hc
        -- a zero is a whole number by itself, and a digit behind it is refused
        cases digits with
        | nil =>
            refine ⟨['0'], after, 0, 0, .zero, rfl, hafter, Nat.zero_le _, fun _ => rfl, fun rest hrest => ?_⟩
            cases rest with
            | nil => rfl
            | cons c rest => simp [readNumber, hrest c rfl]
        | cons d digits =>
            simp only [List.cons_append, readNumber, hdigits d List.mem_cons_self, if_true] at h
            cases h
      · by_cases hdigit : c.isDigit = true
        case neg =>
          simp only [readNumber, if_neg hdigit] at h
          cases h
        have hrow : ∀ d ∈ c :: digits, d.isDigit = true := List.forall_mem_cons.2 ⟨hdigit, hdigits⟩
        obtain ⟨v, k, d, -, hlimit, hvalue, hgather⟩ := exists_gather hrow 0 0 0
        refine ⟨c :: digits, after, v, d, .digits hc ⟨by simp, hrow⟩, rfl, hafter, hlimit (Nat.zero_le _),
          fun hd => (hvalue hd).2, fun rest hrest => ?_⟩
        have hgather' := hgather hrest
        rw [List.cons_append] at hgather'
        simp only [List.cons_append, readNumber, if_pos hdigit, hgather']

theorem takes_readNumber : Takes IsUnsigned (readNumber positive) := by
  intro s j rest h
  obtain ⟨whole, after, v, d, hwhole, rfl, hafter, -, -, hread⟩ := exists_whole_of_readNumber h
  rw [hread hafter] at h
  obtain ⟨part, hpart, rfl, hpass⟩ := takes_readAfterWhole h
  refine ⟨whole ++ part, .mk hwhole hpart, (List.append_assoc _ _ _).symm, fun rest' hrest' => ?_⟩
  rw [List.append_assoc, hread (hpart.endsDigits_append hrest'.endsDigits), hpass hrest']

/-- A number without its sign that is read as this, in front of all that may stand behind a value. -/
structure ReadsNumber (positive : Bool) (number : List Char) (j : Json) : Prop where
  isUnsigned : IsUnsigned number
  reads : ∀ ⦃rest⦄, EndsValue rest → readNumber positive (number ++ rest) = .ok (j, rest)

theorem exists_readsNumber {s rest : List Char} {j : Json} (h : readNumber positive s = .ok (j, rest)) :
    ∃ number, ReadsNumber positive number j ∧ s = number ++ rest := by
  obtain ⟨number, hunsigned, hs, hreads⟩ := takes_readNumber h
  exact ⟨number, ⟨hunsigned, hreads⟩, hs⟩

/-! ## Whole numbers -/

theorem IsWhole.isDigits {digits : List Char} (h : IsWhole digits) : IsDigits digits := by
  cases h with
  | zero => exact ⟨by simp, by simp⟩
  | digits _ hdigits => exact hdigits

theorem float_of_readScaled {s rest : List Char} {j : Json}
    (h : readScaled positive significand exponent s = .ok (j, rest)) : ∃ x, j = .float x := by
  unfold readScaled at h
  split at h <;> cases h
  exact ⟨_, rfl⟩

theorem float_of_readPower {s rest : List Char} {j : Json}
    (h : readPower positive significand exponent s = .ok (j, rest)) : ∃ x, j = .float x := by
  unfold readPower at h
  simp only at h
  split at h
  · cases h
  · split_ifs at h
    all_goals first
      | exact float_of_readScaled h
      | (cases h; exact ⟨_, rfl⟩)
      | cases h

theorem float_of_readFraction {s rest : List Char} {j : Json}
    (h : readFraction positive significand exponent s = .ok (j, rest)) : ∃ x, j = .float x := by
  unfold readFraction at h
  simp only at h
  split_ifs at h
  · split at h <;> cases h
  · unfold readAfterDigits at h
    split at h
    · exact float_of_readPower h
    · exact float_of_readPower h
    · exact float_of_readScaled h

/-- What is read behind the digits of a whole number is a fraction, or nothing; and if there is nothing behind a
    minus sign, then the number keeps to 64 bits with its sign. -/
theorem integer_of_readAfterWhole {s rest : List Char} {j : Json}
    (h : readAfterWhole positive value dropped s = .ok (j, rest)) :
    (∃ x, j = .float x) ∨
      (rest = s ∧ dropped = 0 ∧ j = .integer (if positive then (value : Int) else -value) ∧
        (positive = false → value ≤ 2 ^ 63)) := by
  unfold readAfterWhole at h
  split at h
  · exact .inl (float_of_readFraction h)
  · exact .inl (float_of_readPower h)
  · exact .inl (float_of_readPower h)
  · split_ifs at h with hdropped hpositive hrange
    · exact .inl (float_of_readScaled h)
    · cases h
      exact .inr ⟨rfl, by simpa using hdropped, by simp [hpositive], by simp [hpositive]⟩
    · exact .inl (float_of_readScaled h)
    · cases h
      exact .inr ⟨rfl, by simpa using hdropped, by simp [hpositive], fun _ => by omega⟩

/-- What is read as a whole number is a row of digits of its size, and a word of 64 bits holds it, with a sign
    or without. -/
theorem isDigits_of_readNumber {s rest : List Char} {j : Json}
    (h : readNumber positive s = .ok (j, rest)) :
    (∃ x, j = .float x) ∨
      ∃ digits i, s = digits ++ rest ∧ IsDigits digits ∧ i = Listing.signed (!positive) digits ∧
        -2 ^ 63 ≤ i ∧ i < 2 ^ 64 ∧ j = .integer i := by
  obtain ⟨whole, after, v, d, hwhole, rfl, hafter, hlimit, hvalue, hread⟩ := exists_whole_of_readNumber h
  rw [hread hafter] at h
  rw [gatherLimit] at hlimit
  rcases integer_of_readAfterWhole h with hfloat | ⟨rfl, hd, rfl, hrange⟩
  · exact .inl hfloat
  · refine .inr ⟨whole, _, rfl, hwhole.isDigits, ?_, ?_, ?_, rfl⟩
    · rw [hvalue hd, Listing.signed]
      cases positive <;> rfl
    · split_ifs with hpositive
      · omega
      · have hmin := hrange (by simpa using hpositive)
        omega
    · split_ifs <;> omega

/-! ## Skipping -/

/-- Whether just the parts of a grammar are skipped, in front of all that may stand behind a value. -/
structure Skips (P : List Char → Prop) (skip : List Char → Except Failure (List Char)) : Prop where
  takes : ∀ ⦃s rest⦄, skip s = .ok rest → ∃ part, P part ∧ s = part ++ rest
  passes : ∀ ⦃part rest⦄, P part → EndsValue rest → skip (part ++ rest) = .ok rest

/-- Skips a power of ten behind its letter and its sign. -/
def skipExponent (s : List Char) : Except Failure (List Char) :=
  match s with
  | [] => failHere .invalidNumber []
  | c :: rest =>
      if c.isDigit then .ok (rest.dropWhile Char.isDigit) else failNext .invalidNumber (c :: rest)

theorem skips_skipExponent : Skips IsDigits skipExponent where
  takes := by
    intro s rest h
    unfold skipExponent at h
    split at h
    · cases h
    · rename_i c s
      split_ifs at h with hdigit
      · obtain ⟨digits, after, rfl, hdigits, hafter⟩ := exists_digits s
        rw [dropWhile_isDigit hdigits hafter] at h
        cases h
        exact ⟨c :: digits, ⟨by simp, List.forall_mem_cons.2 ⟨hdigit, hdigits⟩⟩, rfl⟩
      · cases h
  passes := by
    intro digits rest hdigits hrest
    obtain ⟨c, digits, rfl⟩ := List.exists_cons_of_ne_nil hdigits.1
    have hrow := List.forall_mem_cons.1 hdigits.2
    rw [List.cons_append, skipExponent, if_pos hrow.1, dropWhile_isDigit hrow.2 hrest.endsDigits]

theorem skipPower_eq (s : List Char) : skipPower s = skipExponent (splitSign s).2 := by
  unfold skipPower
  split
  · rfl
  · rfl
  · rename_i hplus hminus
    rw [splitSign_eq_self hplus hminus]
    rfl

theorem skips_skipPower : Skips IsExponent skipPower where
  takes := by
    intro s rest h
    rw [skipPower_eq] at h
    obtain ⟨digits, hdigits, hs⟩ := skips_skipExponent.takes h
    obtain ⟨sign, hsplit, hsign⟩ := exists_sign s
    exact ⟨sign ++ digits, .mk hsign hdigits, by rw [hsplit, hs, List.append_assoc]⟩
  passes := by
    intro part rest hpart hrest
    cases hpart with
    | @mk sign digits _ hsign hdigits =>
        have hhead : ∀ c ∈ (digits ++ rest).head?, c ≠ '+' ∧ c ≠ '-' := by
          intro c hc
          rw [List.head?_append_of_ne_nil _ hdigits.1] at hc
          exact hdigits.head_ne hc
        rw [List.append_assoc, skipPower_eq, splitSign_append hsign hhead]
        exact skips_skipExponent.passes hdigits hrest

theorem skips_skipPower? : Skips IsScale skipPower? where
  takes := by
    intro s rest h
    unfold skipPower? at h
    split at h
    · obtain ⟨power, hpower, rfl⟩ := skips_skipPower.takes h
      exact ⟨'e' :: power, .some (by simp) hpower, rfl⟩
    · obtain ⟨power, hpower, rfl⟩ := skips_skipPower.takes h
      exact ⟨'E' :: power, .some (by simp) hpower, rfl⟩
    · cases h
      exact ⟨[], .none, rfl⟩
  passes := by
    intro part rest hpart hrest
    cases hpart with
    | none =>
        rw [List.nil_append, skipPower?.eq_def]
        split
        · exact absurd rfl (hrest 'e' rfl).2.2.1
        · exact absurd rfl (hrest 'E' rfl).2.2.2
        · rfl
    | some hletter hpower =>
        simp only [List.mem_cons, List.not_mem_nil, or_false] at hletter
        rcases hletter with rfl | rfl
        · exact skips_skipPower.passes hpower hrest
        · exact skips_skipPower.passes hpower hrest

/-- A power of ten does not start with a point, nor does what stands behind it. -/
theorem IsScale.append_ne {scale rest more : List Char} (h : IsScale scale) (hrest : EndsValue rest) :
    scale ++ rest ≠ '.' :: more := by
  cases h with
  | none =>
      rintro rfl
      exact (hrest '.' rfl).2.1 rfl
  | some hletter _ =>
      simp only [List.mem_cons, List.not_mem_nil, or_false] at hletter
      rcases hletter with rfl | rfl <;> simp

theorem skips_skipAfterWhole : Skips IsAfterWhole skipAfterWhole where
  takes := by
    intro s rest h
    unfold skipAfterWhole at h
    split at h
    · split at h
      · cases h
      · rename_i c s
        split_ifs at h with hdigit
        · obtain ⟨digits, after, rfl, hdigits, hafter⟩ := exists_digits s
          rw [dropWhile_isDigit hdigits hafter] at h
          obtain ⟨scale, hscale, rfl⟩ := skips_skipPower?.takes h
          have hrow : IsDigits (c :: digits) := ⟨by simp, List.forall_mem_cons.2 ⟨hdigit, hdigits⟩⟩
          exact ⟨'.' :: (c :: digits) ++ scale, .mk (.some hrow) hscale, by simp⟩
        · cases h
    · obtain ⟨scale, hscale, rfl⟩ := skips_skipPower?.takes h
      exact ⟨scale, .mk .none hscale, rfl⟩
  passes := by
    intro part rest hpart hrest
    cases hpart with
    | @mk fraction scale hfraction hscale =>
        have hpass := skips_skipPower?.passes hscale hrest
        cases hfraction with
        | none =>
            rw [List.nil_append, skipAfterWhole.eq_def]
            split
            · -- neither a scale nor the end of a value starts with a point
              rename_i hpoint
              exact absurd hpoint (hscale.append_ne hrest)
            · exact hpass
        | @some digits hdigits =>
            obtain ⟨c, digits, rfl⟩ := List.exists_cons_of_ne_nil hdigits.1
            have hrow := List.forall_mem_cons.1 hdigits.2
            rw [List.append_assoc, List.cons_append, List.cons_append, skipAfterWhole]
            simp only [if_pos hrow.1]
            rw [dropWhile_isDigit hrow.2 (hscale.endsDigits_append hrest.endsDigits), hpass]

/-- Just the numbers are skipped, of any size. -/
theorem skips_skipNumber : Skips IsUnsigned skipNumber where
  takes := by
    intro s rest h
    unfold skipNumber at h
    split at h
    · cases h
    · split at h
      · split_ifs at h
        · cases h
        · obtain ⟨part, hpart, hs⟩ := skips_skipAfterWhole.takes h
          exact ⟨'0' :: part, .mk .zero hpart, by rw [hs, List.cons_append]⟩
      · cases h
        exact ⟨['0'], .mk .zero (.mk .none .none), rfl⟩
    · rename_i c s hc
      split_ifs at h with hdigit
      · obtain ⟨digits, after, rfl, hdigits, hafter⟩ := exists_digits s
        rw [dropWhile_isDigit hdigits hafter] at h
        obtain ⟨part, hpart, rfl⟩ := skips_skipAfterWhole.takes h
        have hrow : IsDigits (c :: digits) := ⟨by simp, List.forall_mem_cons.2 ⟨hdigit, hdigits⟩⟩
        exact ⟨c :: digits ++ part, .mk (.digits (fun hzero => hc hzero) hrow) hpart, by simp⟩
      · cases h
  passes := by
    intro number rest hnumber hrest
    cases hnumber with
    | @mk whole part hwhole hpart =>
        have hpass := skips_skipAfterWhole.passes hpart hrest
        have hends := hpart.endsDigits_append hrest.endsDigits
        cases hwhole with
        | zero =>
            rw [List.append_assoc, List.singleton_append]
            cases hs : part ++ rest with
            | nil =>
                rw [hs] at hpass
                exact hpass
            | cons c s =>
                rw [hs] at hpass hends
                rw [skipNumber, if_neg (by simp [hends c rfl]), hpass]
        | @digits c digits hc hdigits =>
            have hrow := List.forall_mem_cons.1 hdigits.2
            rw [List.append_assoc, List.cons_append, skipNumber.eq_4 _ _ hc, if_pos hrow.1,
              dropWhile_isDigit hrow.2 hends, hpass]

end CodeBlock.Json
