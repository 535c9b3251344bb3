import CodeBlock.Number.Shortest
import Mathlib.Tactic.Ring

set_option autoImplicit false

/-! # Decimals that read back

The shortest decimal of a number reads back as that number (`toBinary64_shortest`). A decimal that the
search finds has been tried; it remains that the exact digits, which stand in where the search finds
none, are rounded to the number they are the digits of, and that zeros may be moved between the digits
and the power of ten. -/

namespace CodeBlock

namespace Binary64

/-! ## Rounding -/

/-- A fraction is rounded to the same whole number in any terms. -/
theorem roundHalfEven_scale (n d : Nat) {k : Nat} (hk : 0 < k) :
    roundHalfEven (n * k) (d * k) = roundHalfEven n d := by
  have hquotient : n * k / (d * k) = n / d := Nat.mul_div_mul_right _ _ hk
  have hrest : 2 * (n * k % (d * k)) = 2 * (n % d) * k := by
    rw [Nat.mul_mod_mul_right]
    ring
  unfold roundHalfEven
  simp only [hquotient, hrest, Nat.mul_lt_mul_right hk]

/-- A whole number is rounded to itself. -/
theorem roundHalfEven_mul_self (n : Nat) {d : Nat} (hd : 0 < d) : roundHalfEven (n * d) d = n := by
  unfold roundHalfEven
  simp [Nat.mul_div_cancel n hd, hd]

/-- A fraction is rounded to the same number of the format in any terms. -/
theorem ofRatio_scale (negative : Bool) (n d : Nat) {k : Nat} (hk : 0 < k) :
    ofRatio negative (n * k) (d * k) = ofRatio negative n d := by
  have hunits : n * k * 2 ^ 1074 = n * 2 ^ 1074 * k := Nat.mul_right_comm n k _
  have hquotient : n * 2 ^ 1074 * k / (d * k) = n * 2 ^ 1074 / d := Nat.mul_div_mul_right _ _ hk
  have hround : ∀ e, roundHalfEven (n * 2 ^ 1074 * k) (d * k * 2 ^ e) =
      roundHalfEven (n * 2 ^ 1074) (d * 2 ^ e) := by
    intro e
    rw [Nat.mul_right_comm d k, roundHalfEven_scale _ _ hk]
  simp only [ofRatio, hunits, hquotient, hround]

/-- The exponent that is chosen for a number in stored form is its own. -/
theorem log2_sub_of_stored {significand exponent : Nat} (h : Stored significand exponent)
    (hne : significand ≠ 0) : Nat.log2 (significand * 2 ^ exponent) - 52 = exponent := by
  obtain ⟨hbits, -, hfull⟩ := h
  rcases hfull with rfl | hfull
  · rw [pow_zero, Nat.mul_one]
    have hlog := (Nat.log2_lt hne).2 hbits
    omega
  · have hproduct : significand * 2 ^ exponent ≠ 0 :=
      Nat.mul_ne_zero hne (Nat.pow_pos (by decide)).ne'
    have hlog : Nat.log2 (significand * 2 ^ exponent) = 52 + exponent := by
      rw [Nat.log2_eq_iff hproduct]
      constructor
      · rw [Nat.pow_add]
        exact Nat.mul_le_mul_right _ hfull
      · rw [show 52 + exponent + 1 = 53 + exponent by omega, Nat.pow_add]
        exact Nat.mul_lt_mul_of_pos_right hbits (Nat.pow_pos (by decide))
    omega

/-- A number of the format is rounded to itself. -/
theorem ofRatio_of_stored (negative : Bool) {significand exponent : Nat}
    (h : Stored significand exponent) (hne : significand ≠ 0) :
    ofRatio negative (significand * 2 ^ exponent) (2 ^ 1074) =
      .finite ⟨negative, significand, exponent, h⟩ := by
  -- powers with an exponent that is a numeral are not to be evaluated
  have hquotient : ∀ k, significand * 2 ^ exponent * 2 ^ k / 2 ^ k = significand * 2 ^ exponent :=
    fun k => Nat.mul_div_cancel _ (Nat.two_pow_pos k)
  have hround : ∀ k, roundHalfEven (significand * 2 ^ exponent * 2 ^ k) (2 ^ k * 2 ^ exponent) =
      significand := by
    intro k
    rw [Nat.mul_assoc, Nat.mul_comm (2 ^ exponent)]
    exact roundHalfEven_mul_self significand
      (Nat.mul_pos (Nat.two_pow_pos k) (Nat.two_pow_pos exponent))
  have hcarry : significand ≠ 2 ^ 53 := Nat.ne_of_lt h.1
  simp only [ofRatio, hquotient 1074, log2_sub_of_stored h hne, hround 1074, if_neg hcarry, ofParts,
    dif_pos h]

end Binary64

namespace Decimal

/-! ## Zeros at the end -/

/-- A zero at the end is one digit more. -/
theorem digitCount_mul_ten {n : Nat} (hn : n ≠ 0) : digitCount (n * 10) = digitCount n + 1 := by
  have happend := Nat.toDigits_append_toDigits (b := 10) (n := n) (d := 0) (by decide)
    (Nat.pos_of_ne_zero hn) (by decide)
  unfold digitCount
  rw [Nat.mul_comm, ← Nat.add_zero (10 * n), ← happend]
  simp

theorem digitCount_le_iff {n k : Nat} (hk : 0 < k) : digitCount n ≤ k ↔ n < 10 ^ k :=
  Nat.length_toDigits_le_iff (by decide) hk

theorem ten_pow (k : Nat) : 10 ^ k = 2 ^ k * 5 ^ k := Nat.mul_pow 2 5 k

theorem two_pow_mul_five_pow_le {l m n j : Nat} (hl : l ≤ m + 2 * j) (h : n + j ≤ m) :
    2 ^ l * 5 ^ n ≤ 10 ^ m := by
  calc 2 ^ l * 5 ^ n ≤ 2 ^ (m + 2 * j) * 5 ^ n :=
        Nat.mul_le_mul_right _ (Nat.pow_le_pow_right (by decide) hl)
    _ = 2 ^ m * (4 ^ j * 5 ^ n) := by rw [Nat.pow_add, Nat.pow_mul, Nat.mul_assoc]
    _ ≤ 2 ^ m * (5 ^ j * 5 ^ n) :=
        Nat.mul_le_mul_left _ (Nat.mul_le_mul_right _ (Nat.pow_le_pow_left (by decide) j))
    _ ≤ 2 ^ m * 5 ^ m := by
        rw [← Nat.pow_add]
        exact Nat.mul_le_mul_left _ (Nat.pow_le_pow_right (by decide) (by omega))
    _ = 10 ^ m := (ten_pow m).symm

/-- A ten is less than a five and half as many fives again. -/
theorem ten_pow_le_five_pow {m n j : Nat} (hm : m ≤ 2 * j) (hn : m + j ≤ n) : 10 ^ m ≤ 5 ^ n := by
  calc 10 ^ m = 2 ^ m * 5 ^ m := ten_pow m
    _ ≤ 2 ^ (2 * j) * 5 ^ m := Nat.mul_le_mul_right _ (Nat.pow_le_pow_right (by decide) hm)
    _ = 4 ^ j * 5 ^ m := by rw [Nat.pow_mul]
    _ ≤ 5 ^ j * 5 ^ m := Nat.mul_le_mul_right _ (Nat.pow_le_pow_left (by decide) j)
    _ ≤ 5 ^ n := by
        rw [← Nat.pow_add]
        exact Nat.pow_le_pow_right (by decide) (by omega)

/-- Digits behind a point are a fraction, unless their size alone says what they are. -/
theorem toBinary64_of_places {negative : Bool} {digits places : Nat} (hne : digits ≠ 0)
    (hplaces : 0 < places) (hmost : digitCount digits ≤ 400 + places)
    (hleast : places ≤ 400 + digitCount digits) :
    toBinary64 ⟨negative, digits, -places⟩ = Binary64.ofRatio negative digits (10 ^ places) := by
  have hlarge : ¬ (400 : Int) < -places + digitCount digits := by omega
  have hsmall : ¬ (-places + digitCount digits : Int) < -400 := by omega
  have hfraction : ¬ (0 : Int) ≤ -places := by omega
  rw [toBinary64, if_neg hne, if_neg hlarge, if_neg hsmall, if_neg hfraction, Int.neg_neg,
    Int.toNat_natCast]

/-- A zero at the end may as well be in the power of ten. -/
theorem toBinary64_mul_ten (negative : Bool) (n : Nat) (e : Int) :
    toBinary64 ⟨negative, n * 10, e⟩ = toBinary64 ⟨negative, n, e + 1⟩ := by
  by_cases hn : n = 0
  · simp [toBinary64, hn]
  · have hn' : n * 10 ≠ 0 := by omega
    have hcount : e + (digitCount (n * 10) : Int) = e + 1 + digitCount n := by
      rw [digitCount_mul_ten hn]
      push_cast
      ring
    have hratio : (if 0 ≤ e then Binary64.ofRatio negative (n * 10 * 10 ^ e.toNat) 1
          else Binary64.ofRatio negative (n * 10) (10 ^ (-e).toNat)) =
        if 0 ≤ e + 1 then Binary64.ofRatio negative (n * 10 ^ (e + 1).toNat) 1
          else Binary64.ofRatio negative n (10 ^ (-(e + 1)).toNat) := by
      -- the exponent crosses zero between the two sides in one case only
      split_ifs with h0 h1 h1
      · rw [show (e + 1).toNat = e.toNat + 1 by omega, Nat.pow_succ, Nat.mul_assoc,
          Nat.mul_comm 10]
      · omega
      · rw [show (e + 1).toNat = 0 by omega, show (-e).toNat = 1 by omega, pow_zero, pow_one,
          Nat.mul_one, ← Binary64.ofRatio_scale negative n 1 (k := 10) (by decide), Nat.one_mul]
      · rw [show (-e).toNat = (-(e + 1)).toNat + 1 by omega, Nat.pow_succ,
          Binary64.ofRatio_scale _ _ _ (by decide)]
    simp only [toBinary64, if_neg hn, if_neg hn', hcount, hratio]

/-- Zeros at the end may as well be in the power of ten. -/
theorem toBinary64_mul_pow_ten (negative : Bool) (n k : Nat) (e : Int) :
    toBinary64 ⟨negative, n * 10 ^ k, e⟩ = toBinary64 ⟨negative, n, e + k⟩ := by
  induction k generalizing e with
  | zero => simp
  | succ k ih =>
      rw [Nat.pow_succ, ← Nat.mul_assoc, toBinary64_mul_ten, ih]
      push_cast
      rw [add_assoc, add_comm (1 : Int)]

/-- Taking zeros off the end changes no value. -/
theorem toBinary64_stripZeros (negative : Bool) (fuel digits : Nat) (unit : Int) :
    toBinary64 ⟨negative, (stripZeros fuel (digits, unit)).1, (stripZeros fuel (digits, unit)).2⟩ =
      toBinary64 ⟨negative, digits, unit⟩ := by
  induction fuel generalizing digits unit with
  | zero => rfl
  | succ fuel ih =>
      unfold stripZeros
      split_ifs with h
      · rw [ih, ← toBinary64_mul_ten, Nat.div_mul_cancel (Nat.dvd_of_mod_eq_zero h.2)]
      · rfl

end Decimal

namespace Binary64.Finite

/-! ## The shortest decimal -/

/-- What the search finds has been tried. -/
theorem readsBack_of_searchGrids {tie : Tie} {x : Finite} {point : Int} {left count : Nat}
    {digits : Nat} {unit : Int} (h : x.searchGrids tie point left count = some (digits, unit)) :
    x.readsBack digits unit = true := by
  induction left generalizing count with
  | zero => simp [searchGrids] at h
  | succ left ih =>
      simp only [searchGrids] at h
      split at h
      · rename_i found hfound
        simp only [Option.some.injEq, Prod.mk.injEq] at h
        obtain ⟨rfl, rfl⟩ := h
        simp only [onGrid?] at hfound
        split_ifs at hfound with h1 h2 h3 h4 h5 <;>
          · rw [Option.some.injEq] at hfound
            subst hfound
            assumption
      · exact ih h

/-- The exact digits have as many digits as a number of the format may have. -/
theorem digitCount_exactDigits {significand exponent : Nat} (h : Stored significand exponent)
    (hne : significand ≠ 0) :
    Decimal.digitCount (significand * 2 ^ exponent * 5 ^ 1074) ≤ 1474 ∧
      674 ≤ Decimal.digitCount (significand * 2 ^ exponent * 5 ^ 1074) := by
  obtain ⟨hbits, hexponent, -⟩ := h
  have hlow : 1 ≤ significand * 2 ^ exponent :=
    Nat.mul_pos (Nat.pos_of_ne_zero hne) (Nat.pow_pos (by decide))
  have hhigh : significand * 2 ^ exponent < 2 ^ (53 + exponent) := by
    rw [Nat.pow_add]
    exact Nat.mul_lt_mul_of_pos_right hbits (Nat.pow_pos (by decide))
  -- the bounds are compared as powers of two and five, which are never evaluated
  have hmost : 2 ^ (53 + exponent) * 5 ^ 1074 ≤ 10 ^ 1474 :=
    Decimal.two_pow_mul_five_pow_le (m := 1474) (n := 1074) (j := 312) (by omega) (by decide)
  have hscaled : ∀ k, significand * 2 ^ exponent * 5 ^ k < 2 ^ (53 + exponent) * 5 ^ k := fun k =>
    Nat.mul_lt_mul_of_pos_right hhigh (Nat.pow_pos (by decide))
  have hunit : ∀ k, 5 ^ k ≤ significand * 2 ^ exponent * 5 ^ k := fun k => Nat.le_mul_of_pos_left _ hlow
  constructor
  · rw [Decimal.digitCount_le_iff (by decide)]
    exact Nat.lt_of_lt_of_le (hscaled 1074) hmost
  · by_contra hfew
    have hless : significand * 2 ^ exponent * 5 ^ 1074 < 10 ^ 673 :=
      (Decimal.digitCount_le_iff (k := 673) (by decide)).1 (Nat.lt_succ_iff.1 (Nat.not_le.1 hfew))
    have hmore : 10 ^ 673 ≤ 5 ^ 1074 :=
      Decimal.ten_pow_le_five_pow (m := 673) (n := 1074) (j := 337) (by decide) (by decide)
    exact absurd (Nat.lt_of_le_of_lt (hunit 1074) hless) (Nat.not_lt.2 hmore)

theorem toBinary64_exactDigits (x : Finite) (hne : x.significand ≠ 0) :
    Decimal.toBinary64 ⟨x.negative, x.exactDigits.1, x.exactDigits.2⟩ = .finite x := by
  obtain ⟨negative, significand, exponent, h⟩ := x
  change significand ≠ 0 at hne
  have hdigits : ∀ k, significand * 2 ^ exponent * 5 ^ k ≠ 0 := fun k =>
    Nat.mul_ne_zero (Nat.mul_ne_zero hne (Nat.pow_pos (by decide)).ne') (Nat.pow_pos (by decide)).ne'
  obtain ⟨hmost, hleast⟩ := digitCount_exactDigits h hne
  have hplaces : Decimal.toBinary64
        ⟨negative, significand * 2 ^ exponent * 5 ^ 1074, -((1074 : Nat) : Int)⟩ =
      ofRatio negative (significand * 2 ^ exponent * 5 ^ 1074) (10 ^ 1074) :=
    Decimal.toBinary64_of_places (hdigits 1074) (by decide) (by omega) (by omega)
  have hscale : ∀ k, ofRatio negative (significand * 2 ^ exponent * 5 ^ k) (10 ^ k) =
      ofRatio negative (significand * 2 ^ exponent) (2 ^ k) := by
    intro k
    rw [Decimal.ten_pow, ofRatio_scale _ _ _ (Nat.pow_pos (by decide))]
  exact hplaces.trans ((hscale 1074).trans (ofRatio_of_stored negative h hne))

/-- The shortest decimal of a number reads back as the number. -/
theorem toBinary64_shortest (tie : Tie) (x : Finite) : (x.shortest tie).toBinary64 = .finite x := by
  unfold shortest
  by_cases hzero : x.significand = 0
  · obtain ⟨negative, significand, exponent, h⟩ := x
    change significand = 0 at hzero
    have hexponent : exponent = 0 := by
      obtain ⟨-, -, hlow | hfull⟩ := h
      · exact hlow
      · exact absurd hfull (by rw [hzero]; decide)
    subst hzero hexponent
    simp [Decimal.toBinary64, zero]
  · simp only [if_neg hzero]
    rw [Decimal.toBinary64_stripZeros]
    cases hsearch : x.searchGrids tie x.pointPosition 17 1 with
    | none => exact toBinary64_exactDigits x hzero
    | some found =>
        have hfound := readsBack_of_searchGrids hsearch
        simpa [readsBack] using hfound

end Binary64.Finite

end CodeBlock
