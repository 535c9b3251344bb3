import CodeBlock.Number.Shortest

set_option autoImplicit false

/-! # How numbers are written

A **style** says how the shortest digits of a number are laid out: where plain notation ends and
powers of ten begin, whether a whole number keeps a point, and which way the digits go from the
exact middle. Each text format has one style, beside the code that writes the format. -/

namespace CodeBlock

/-- The layout of a number's digits. -/
structure NumberStyle where
  /-- Which of two equally near digits is written. -/
  tie : Tie
  /-- Whether a plain whole number is written with a point and one zero. -/
  wholePoint : Bool
  /-- The powers of ten that are written plainly: from the first up to, not including, the second.
      Without bounds all are. -/
  plain : Option (Int × Int)

namespace NumberStyle

/-- The digits in plain notation, without sign. -/
def plainText (style : NumberStyle) (digits : Nat) (exponent : Int) : List Char :=
  let written := Nat.toDigits 10 digits
  if 0 ≤ exponent then
    written ++ List.replicate exponent.toNat '0' ++ if style.wholePoint then ['.', '0'] else []
  else
    let places := (-exponent).toNat
    let padded := List.replicate (places + 1 - written.length) '0' ++ written
    padded.take (padded.length - places) ++ '.' :: padded.drop (padded.length - places)

/-- The digits with a power of ten, without sign: one digit before the point, and a sign before the
    power. -/
def powerText (digits : Nat) (exponent : Int) : List Char :=
  let written := Nat.toDigits 10 digits
  let power := exponent + written.length - 1
  let mantissa := match written with
    | first :: second :: more => first :: '.' :: second :: more
    | short => short
  mantissa ++ 'e' :: (if power < 0 then '-' else '+') :: Nat.toDigits 10 power.natAbs

/-- The text of a decimal number. -/
def write (style : NumberStyle) (d : Decimal) : List Char :=
  let power := d.exponent + Decimal.digitCount d.digits - 1
  let isPlain := match style.plain with
    | none => true
    | some (first, bound) => d.digits == 0 || (decide (first ≤ power) && decide (power < bound))
  (if d.negative then ['-'] else []) ++
    if isPlain then style.plainText d.digits d.exponent else powerText d.digits d.exponent

end NumberStyle

end CodeBlock
