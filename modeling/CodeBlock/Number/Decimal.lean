import CodeBlock.Number.Binary64

set_option autoImplicit false

/-! # Decimal numbers

A decimal number is `± digits · 10 ^ exponent`. Its value in the binary format is the exact
rational number rounded once. Numbers far outside the format's range are settled by their size
alone, so that an exponent of a billion costs nothing. -/

namespace CodeBlock

/-- The number `± digits · 10 ^ exponent`. -/
structure Decimal where
  negative : Bool
  digits : Nat
  exponent : Int
  deriving DecidableEq, Repr

namespace Decimal

/-- How many decimal digits a natural number is written with. -/
def digitCount (n : Nat) : Nat := (Nat.toDigits 10 n).length

/-- The nearest number of the binary format. -/
def toBinary64 (d : Decimal) : Binary64 :=
  if d.digits = 0 then Binary64.zero d.negative
  else if 400 < d.exponent + digitCount d.digits then .infinite d.negative
  else if d.exponent + digitCount d.digits < -400 then Binary64.zero d.negative
  else if 0 ≤ d.exponent then Binary64.ofRatio d.negative (d.digits * 10 ^ d.exponent.toNat) 1
  else Binary64.ofRatio d.negative d.digits (10 ^ (-d.exponent).toNat)

/-! ## Reading digits -/

def valueOfDigits (s : List Char) : Nat := Nat.ofDigitChars 10 s 0

end Decimal

end CodeBlock
