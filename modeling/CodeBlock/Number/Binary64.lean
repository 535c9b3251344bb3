import CodeBlock.Number.Power

set_option autoImplicit false

/-! # Binary floating-point numbers

The numbers of the 64-bit binary format, as exact data: a finite number is
`± significand · 2 ^ (exponent - 1074)` in the one form that the format stores it in. Every
operation is the exact rational result rounded once, to the nearest number of the format and, from
the middle between two, to the even one; what is too large becomes infinite. Nothing here is
approximate, so the digits of a number can be reasoned about. -/

namespace CodeBlock

/-- Whether a significand and an exponent are in stored form: 53 bits, all of them used unless the
    exponent is the lowest. -/
def Binary64.Stored (significand exponent : Nat) : Prop :=
  significand < 2 ^ 53 ∧ exponent ≤ 2045 ∧ (exponent = 0 ∨ 2 ^ 52 ≤ significand)

instance (significand exponent : Nat) : Decidable (Binary64.Stored significand exponent) :=
  inferInstanceAs (Decidable (_ ∧ _ ∧ (_ ∨ _)))

theorem Binary64.stored_zero : Binary64.Stored 0 0 := by decide

/-- A finite number `± significand · 2 ^ (exponent - 1074)`; zero has both signs. -/
structure Binary64.Finite where
  negative : Bool
  significand : Nat
  exponent : Nat
  stored : Binary64.Stored significand exponent
  deriving DecidableEq, Repr

/-- A number of the 64-bit binary format. All that are not a number are one value. -/
inductive Binary64 where
  | nan
  | infinite (negative : Bool)
  | finite (number : Binary64.Finite)
  deriving DecidableEq, Repr

namespace Binary64

def zero (negative : Bool) : Binary64 := .finite ⟨negative, 0, 0, stored_zero⟩

instance : Inhabited Binary64 := ⟨zero false⟩

/-- The number with the given parts, infinite when the format has none such. -/
def ofParts (negative : Bool) (significand exponent : Nat) : Binary64 :=
  if stored : Stored significand exponent then .finite ⟨negative, significand, exponent, stored⟩
  else .infinite negative

/-! ## Rounding -/

/-- `numerator / denominator` rounded to the nearest whole number, from the middle to the even
    one. -/
def roundHalfEven (numerator denominator : Nat) : Nat :=
  let quotient := numerator / denominator
  let twice := 2 * (numerator % denominator)
  if twice < denominator then quotient
  else if denominator < twice then quotient + 1
  else if quotient % 2 = 0 then quotient else quotient + 1

/-- `± numerator / denominator` rounded to the nearest number of the format. The exponent is the
    one that leaves 53 bits before the point, and the lowest for small numbers; rounding can carry
    into a 54th bit, which is then taken off again. -/
def ofRatio (negative : Bool) (numerator denominator : Nat) : Binary64 :=
  let units := numerator * 2 ^ 1074
  let exponent := Nat.log2 (units / denominator) - 52
  let significand := roundHalfEven units (denominator * 2 ^ exponent)
  if significand = 2 ^ 53 then ofParts negative (2 ^ 52) (exponent + 1)
  else ofParts negative significand exponent

/-- The number nearest to a natural number. -/
def ofNat (n : Nat) : Binary64 := ofRatio false n 1

/-! ## Sign and arithmetic -/

/-- The number with the opposite sign. -/
def neg : Binary64 → Binary64
  | nan => nan
  | infinite negative => infinite !negative
  | finite x => finite { x with negative := !x.negative }

def isInfinite : Binary64 → Bool
  | infinite _ => true
  | _ => false

/-- Whether the number is zero of either sign. -/
def isZero : Binary64 → Bool
  | finite x => x.significand == 0
  | _ => false

/-- The product, rounded. -/
def mul : Binary64 → Binary64 → Binary64
  | nan, _ => nan
  | _, nan => nan
  | infinite s, infinite t => infinite (s ^^ t)
  | infinite s, finite y => if y.significand = 0 then nan else infinite (s ^^ y.negative)
  | finite x, infinite t => if x.significand = 0 then nan else infinite (x.negative ^^ t)
  | finite x, finite y =>
      ofRatio (x.negative ^^ y.negative)
        (x.significand * y.significand * 2 ^ (x.exponent + y.exponent)) (2 ^ 2148)

/-- The quotient, rounded. -/
def div : Binary64 → Binary64 → Binary64
  | nan, _ => nan
  | _, nan => nan
  | infinite _, infinite _ => nan
  | infinite s, finite y => infinite (s ^^ y.negative)
  | finite x, infinite t => zero (x.negative ^^ t)
  | finite x, finite y =>
      if y.significand = 0 then
        if x.significand = 0 then nan else infinite (x.negative ^^ y.negative)
      else
        ofRatio (x.negative ^^ y.negative) (x.significand * 2 ^ x.exponent)
          (y.significand * 2 ^ y.exponent)

/-! ## Stored bits -/

/-- The 64 bits of the number; a value that is not a number has the usual quiet pattern. -/
def toBits : Binary64 → Nat
  | nan => 0x7FF8000000000000
  | infinite negative => (if negative then 2 ^ 63 else 0) + 0x7FF0000000000000
  | finite x => (if x.negative then 2 ^ 63 else 0) + x.exponent * 2 ^ 52 + x.significand

/-- The number with the given 64 bits. -/
def ofBits (bits : Nat) : Binary64 :=
  let negative := bits / 2 ^ 63 % 2 == 1
  let biased := bits / 2 ^ 52 % 2 ^ 11
  let fraction := bits % 2 ^ 52
  if biased = 2047 then if fraction = 0 then infinite negative else nan
  else if biased = 0 then ofParts negative fraction 0
  else ofParts negative (fraction + 2 ^ 52) (biased - 1)

end Binary64

end CodeBlock
