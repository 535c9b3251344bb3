import CodeBlock.Number.Binary64
import Mathlib.Algebra.Order.Ring.Int
import Mathlib.Tactic.Ring
import Mathlib.Tactic.SplitIfs

set_option autoImplicit false

/-! # Rounding to the nearest number

A fraction is rounded to the number of the format that is nearest to it, and from the middle between two to
the one with an even significand. The exponent is chosen so that the fraction has 53 bits before the point.
Numbers of that exponent or a higher one are whole multiples of its power of two, among which the nearest is
found; and those of a lower exponent lie below the least number of the exponent, which is itself a multiple
and not above the fraction. -/

namespace CodeBlock.Binary64

/-! ## Whole numbers -/

theorem roundHalfEven_half (n : Nat) {d : Nat} (hd : 0 < d) :
    2 * ((roundHalfEven n d : Int) * d - n).natAbs ≤ d ∧
      (2 * ((roundHalfEven n d : Int) * d - n).natAbs = d → roundHalfEven n d % 2 = 0) := by
  have hn : n / d * d + n % d = n := Nat.div_add_mod' n d
  have hrest : n % d < d := Nat.mod_lt n hd
  rw [roundHalfEven]
  generalize n / d = quotient at hn
  generalize n % d = rest at hn hrest
  have hvalue : (n : Int) = (quotient : Int) * d + rest := by rw [← hn]; push_cast; ring
  have hup : ((quotient + 1 : Nat) : Int) * d = (quotient : Int) * d + d := by push_cast; ring
  rw [hvalue]
  split_ifs <;> (try rw [hup]) <;> omega

/-- No multiple of the denominator is nearer to the numerator, and another one is as near only if the quotient
    was rounded to an even number. -/
theorem roundHalfEven_nearest (n : Nat) {d : Nat} (hd : 0 < d) (m : Int) :
    ((roundHalfEven n d : Int) * d - n).natAbs ≤ (m * d - n).natAbs ∧
      (m ≠ roundHalfEven n d →
        (m * d - n).natAbs = ((roundHalfEven n d : Int) * d - n).natAbs → roundHalfEven n d % 2 = 0) := by
  obtain ⟨hhalf, heven⟩ := roundHalfEven_half n hd
  by_cases hm : m = roundHalfEven n d
  · simp [hm]
  · -- another multiple is away by a whole denominator, so by half of it at least from the numerator
    have happart : d ≤ (m * d - (roundHalfEven n d : Int) * d).natAbs := by
      rw [← Int.sub_mul, Int.natAbs_mul, Int.natAbs_natCast]
      exact Nat.le_mul_of_pos_left d (by omega)
    refine ⟨by omega, fun _ htie => heven (by omega)⟩

/-- A quotient up to a whole number is rounded to no larger one. -/
theorem roundHalfEven_le {n d m : Nat} (hd : 0 < d) (h : n ≤ m * d) : roundHalfEven n d ≤ m := by
  have hnearest := (roundHalfEven_nearest n hd m).1
  rw [← Nat.cast_mul, ← Nat.cast_mul] at hnearest
  exact Nat.le_of_mul_le_mul_right (show roundHalfEven n d * d ≤ m * d by omega) hd

/-- A quotient from a whole number on is rounded to no smaller one. -/
theorem le_roundHalfEven {n d m : Nat} (hd : 0 < d) (h : m * d ≤ n) : m ≤ roundHalfEven n d := by
  have hnearest := (roundHalfEven_nearest n hd m).1
  rw [← Nat.cast_mul, ← Nat.cast_mul] at hnearest
  exact Nat.le_of_mul_le_mul_right (show m * d ≤ roundHalfEven n d * d by omega) hd

/-! ## Numbers of the format -/

/-- The value in units of the least positive number of the format. -/
def Finite.units (x : Finite) : Int :=
  if x.negative then -(x.significand * 2 ^ x.exponent : Nat) else (x.significand * 2 ^ x.exponent : Nat)

/-- How far a number is from `n / d`, in parts of the least positive number of which `d` are a whole. -/
def Finite.distance (x : Finite) (n d : Nat) : Nat := (x.units * d - (n * 2 ^ 1074 : Nat)).natAbs

/-- Whether no number of the format is nearer to `n / d`, and none but this one is as near if its significand
    is odd. -/
structure Finite.IsNearest (x : Finite) (n d : Nat) : Prop where
  le_distance : ∀ y : Finite, x.distance n d ≤ y.distance n d
  even_of_tie : ∀ y : Finite, y.units ≠ x.units → y.distance n d = x.distance n d → x.significand % 2 = 0

/-- A number is a multiple of a power of two, or below the least number that has it as its exponent. -/
theorem Finite.units_multiple_or_lt (x : Finite) (exponent : Nat) :
    (∃ m : Int, x.units = m * 2 ^ exponent) ∨
      exponent ≠ 0 ∧ x.units < (2 ^ 52 * 2 ^ exponent : Nat) := by
  by_cases hle : exponent ≤ x.exponent
  · left
    obtain ⟨more, hmore⟩ := Nat.exists_eq_add_of_le' hle
    refine ⟨if x.negative then -(x.significand * 2 ^ more : Nat) else (x.significand * 2 ^ more : Nat), ?_⟩
    rw [units, hmore, Nat.pow_add]
    split_ifs <;> push_cast <;> ring
  · right
    have hbits : x.significand * 2 ^ x.exponent < 2 ^ 53 * 2 ^ x.exponent :=
      Nat.mul_lt_mul_of_pos_right x.stored.1 (Nat.pow_pos (by decide))
    have hstep : 2 ^ 53 * 2 ^ x.exponent ≤ 2 ^ 52 * 2 ^ exponent := by
      rw [← Nat.pow_add, ← Nat.pow_add]
      exact Nat.pow_le_pow_right (by decide) (by omega)
    refine ⟨by omega, ?_⟩
    rw [units]
    split_ifs <;> omega

/-- The power of two that a fraction is measured by: there are at least 52 bits before its point, unless it is
    the lowest, and at most 53. -/
theorem exponent_bounds (n : Nat) {d : Nat} (hd : 0 < d) :
    (Nat.log2 (n / d) - 52 ≠ 0 → 2 ^ 52 * (d * 2 ^ (Nat.log2 (n / d) - 52)) ≤ n) ∧
      n < 2 ^ 53 * (d * 2 ^ (Nat.log2 (n / d) - 52)) := by
  generalize hexponent : Nat.log2 (n / d) - 52 = exponent
  constructor
  · intro hne
    have hquotient : n / d ≠ 0 := by
      intro hzero
      simp [hzero] at hexponent
      omega
    have hlow : 2 ^ (52 + exponent) ≤ n / d :=
      (Nat.pow_le_pow_right (by decide) (by omega)).trans (Nat.log2_self_le hquotient)
    have hmul := (Nat.mul_le_mul_right d hlow).trans (Nat.div_mul_le_self n d)
    calc 2 ^ 52 * (d * 2 ^ exponent) = 2 ^ (52 + exponent) * d := by ring
      _ ≤ n := hmul
  · have hhigh : n / d < 2 ^ (53 + exponent) :=
      Nat.lt_log2_self.trans_le (Nat.pow_le_pow_right (by decide) (by omega))
    calc n < 2 ^ (53 + exponent) * d := (Nat.div_lt_iff_lt_mul hd).1 hhigh
      _ = 2 ^ 53 * (d * 2 ^ exponent) := by ring

/-- The nearest of the multiples of a power of two is the nearest number, if the fraction has 52 bits before
    the point or the power is the lowest. -/
theorem Finite.isNearest_of_units {x : Finite} {n d exponent : Nat} (hd : 0 < d)
    (hlow : exponent ≠ 0 → 2 ^ 52 * (d * 2 ^ exponent) ≤ n * 2 ^ 1074)
    (hunits : x.units = roundHalfEven (n * 2 ^ 1074) (d * 2 ^ exponent) * 2 ^ exponent)
    (heven : roundHalfEven (n * 2 ^ 1074) (d * 2 ^ exponent) % 2 = 0 → x.significand % 2 = 0) :
    x.IsNearest n d := by
  have hscale : 0 < d * 2 ^ exponent := Nat.mul_pos hd (Nat.pow_pos (by decide))
  have hvalue : ∀ m : Int, m * 2 ^ exponent * d = m * (d * 2 ^ exponent : Nat) := by
    intro m
    push_cast
    ring
  have hnearest := roundHalfEven_nearest (n * 2 ^ 1074) hscale
  have hdistance : ∀ y : Finite, x.distance n d ≤ y.distance n d ∧
      (y.units ≠ x.units → y.distance n d = x.distance n d → x.significand % 2 = 0) := by
    intro y
    rw [distance, distance, hunits, hvalue]
    generalize n * 2 ^ 1074 = scaled at *
    rcases y.units_multiple_or_lt exponent with ⟨m, hy⟩ | ⟨hne, hy⟩
    · rw [hy, hvalue]
      refine ⟨(hnearest m).1, fun hother htie => heven ((hnearest m).2 ?_ htie)⟩
      rintro rfl
      exact hother rfl
    · -- the least number with the exponent lies between
      have hleast := (hnearest (2 ^ 52 : Nat)).1
      have hbelow : y.units * d < (2 ^ 52 * (d * 2 ^ exponent) : Nat) := by
        have h := Int.mul_lt_mul_of_pos_right hy (show (0 : Int) < d by omega)
        refine h.trans_eq ?_
        push_cast
        ring
      have hlow := hlow hne
      rw [← Nat.cast_mul] at hleast
      omega
  exact ⟨fun y => (hdistance y).1, fun y => (hdistance y).2⟩

/-- The power of two of a fraction that is not too large is none of the highest. -/
theorem exponent_le {n d k : Nat} (hk : k ≤ 1023) (hn : n < 2 ^ k * d) :
    Nat.log2 (n * 2 ^ 1074 / d) - 52 ≤ 2044 := by
  by_cases hzero : n * 2 ^ 1074 / d = 0
  · rw [hzero]
    decide
  · have hhigh : n * 2 ^ 1074 / d < 2 ^ (k + 1074) := by
      refine Nat.div_lt_of_lt_mul ?_
      calc n * 2 ^ 1074 < 2 ^ k * d * 2 ^ 1074 := Nat.mul_lt_mul_of_pos_right hn (pow_pos Nat.two_pos _)
        _ = d * 2 ^ (k + 1074) := by rw [Nat.mul_comm (2 ^ k), Nat.mul_assoc, ← Nat.pow_add]
    have hlog : Nat.log2 (n * 2 ^ 1074 / d) < k + 1074 := (Nat.log2_lt hzero).2 hhigh
    generalize Nat.log2 (n * 2 ^ 1074 / d) = log at hlog
    omega

/-- A fraction that is not too large is rounded to the number that is nearest to it. -/
theorem exists_ofRatio_eq_nearest {n d k : Nat} (hd : 0 < d) (hk : k ≤ 1023) (hn : n < 2 ^ k * d) :
    ∃ x : Finite, ofRatio false n d = .finite x ∧ x.negative = false ∧ x.IsNearest n d := by
  obtain ⟨hlow, hhigh⟩ := exponent_bounds (n * 2 ^ 1074) hd
  have htop := exponent_le hk hn
  rw [ofRatio]
  generalize Nat.log2 (n * 2 ^ 1074 / d) - 52 = exponent at *
  have hscale : 0 < d * 2 ^ exponent := Nat.mul_pos hd (Nat.pow_pos (by decide))
  have hle : roundHalfEven (n * 2 ^ 1074) (d * 2 ^ exponent) ≤ 2 ^ 53 := roundHalfEven_le hscale hhigh.le
  have hge : exponent ≠ 0 → 2 ^ 52 ≤ roundHalfEven (n * 2 ^ 1074) (d * 2 ^ exponent) :=
    fun hne => le_roundHalfEven hscale (hlow hne)
  split_ifs with hcarry
  · -- rounding went up to a power of two, which is stored with the next exponent
    have hstored : Stored (2 ^ 52) (exponent + 1) := ⟨by decide, by omega, .inr le_rfl⟩
    refine ⟨⟨false, 2 ^ 52, exponent + 1, hstored⟩, by rw [ofParts, dif_pos hstored], rfl, ?_⟩
    have heven : 2 ^ 52 % 2 = 0 := by decide
    refine Finite.isNearest_of_units hd hlow ?_ fun _ => heven
    rw [Finite.units, hcarry]
    push_cast
    ring
  · have hstored : Stored (roundHalfEven (n * 2 ^ 1074) (d * 2 ^ exponent)) exponent := by
      refine ⟨by omega, by omega, ?_⟩
      by_cases hzero : exponent = 0
      · exact .inl hzero
      · exact .inr (hge hzero)
    refine ⟨⟨false, _, exponent, hstored⟩, by rw [ofParts, dif_pos hstored], rfl, ?_⟩
    refine Finite.isNearest_of_units hd hlow ?_ id
    simp only [Finite.units, Bool.false_eq_true, if_false, Nat.cast_mul, Nat.cast_pow, Nat.cast_ofNat]

end CodeBlock.Binary64
