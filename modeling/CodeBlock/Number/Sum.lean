import CodeBlock.Number.Binary64

set_option autoImplicit false

/-! # Sums, order and whole parts

More operations on numbers of the 64-bit binary format: sum and difference, order, the whole part and
the remainder of a division. As a finite number is a whole number of units `2 ^ -1074`, all of them are
done on whole numbers, and the result is rounded once. -/

namespace CodeBlock.Binary64

/-- A finite number as a whole number of units `2 ^ -1074`. -/
def Finite.signedUnits (x : Finite) : Int :=
  let size : Int := (x.significand * 2 ^ x.exponent : Nat)
  if x.negative then -size else size

/-- The number nearest to a whole number of units `2 ^ -1074`; zero gets the sign `negativeZero`. -/
def ofUnits (negativeZero : Bool) (units : Int) : Binary64 :=
  if units = 0 then zero negativeZero else ofRatio (decide (units < 0)) units.natAbs (2 ^ 1074)

/-- The sum, rounded. -/
def add : Binary64 → Binary64 → Binary64
  | nan, _ => nan
  | _, nan => nan
  | infinite s, infinite t => if s = t then infinite s else nan
  | infinite s, finite _ => infinite s
  | finite _, infinite t => infinite t
  | finite x, finite y => ofUnits (x.negative && y.negative) (x.signedUnits + y.signedUnits)

/-- The difference, rounded. -/
def sub (a b : Binary64) : Binary64 := add a (neg b)

/-- The order of two numbers; one that is not a number has none. -/
def compare? : Binary64 → Binary64 → Option Ordering
  | nan, _ => none
  | _, nan => none
  | infinite s, infinite t => some (compare t s)
  | infinite s, finite _ => some (if s then .lt else .gt)
  | finite _, infinite t => some (if t then .gt else .lt)
  | finite x, finite y => some (compare x.signedUnits y.signedUnits)

/-- The whole part of a finite number. -/
def Finite.truncate (x : Finite) : Int :=
  let size : Int := (x.significand * 2 ^ x.exponent / 2 ^ 1074 : Nat)
  if x.negative then -size else size

def Finite.isWhole (x : Finite) : Bool := x.significand * 2 ^ x.exponent % 2 ^ 1074 == 0

/-- The whole number that a number is, if it is one. -/
def whole? : Binary64 → Option Int
  | finite x => if x.isWhole then some x.truncate else none
  | _ => none

/-- The whole part; numbers that are not finite stay as they are. -/
def truncate : Binary64 → Binary64
  | finite x => ofUnits x.negative (x.truncate * 2 ^ 1074)
  | other => other

/-- The number nearest to a whole number. -/
def ofInt (n : Int) : Binary64 := ofRatio (decide (n < 0)) n.natAbs 1

/-- What is left of a number when another one is taken from it as often as can be; it has the sign of the
    first one. -/
def rem : Binary64 → Binary64 → Binary64
  | nan, _ => nan
  | _, nan => nan
  | infinite _, _ => nan
  | finite x, infinite _ => finite x
  | finite x, finite y =>
      if y.significand = 0 then nan
      else ofUnits x.negative (Int.tmod x.signedUnits y.signedUnits)

end CodeBlock.Binary64
