import CodeBlock.Number.Decimal

set_option autoImplicit false

/-! # The shortest digits of a number

A number of the binary format is written with the fewest decimal digits that read back as the same
number, and among those texts with the one nearest to it. The search looks at the grids of 1, 2, …
17 digits: on each it tries the two grid points around the number, and the first grid with a point
that reads back wins. When both points do, the nearer is taken, and a rule settles the exact
middle. -/

namespace CodeBlock

/-- Which of two equally near decimal neighbours is taken. -/
inductive Tie where
  | up
  | even
  deriving DecidableEq, Repr

namespace Binary64.Finite

/-- Numerator of the exact absolute value. -/
def numerator (x : Finite) : Nat := x.significand * 2 ^ (x.exponent - 1074)

/-- Denominator of the exact absolute value. -/
def denominator (x : Finite) : Nat := 2 ^ (1074 - x.exponent)

/-- The number of digits before the decimal point; zero or negative for numbers below one. -/
def pointPosition (x : Finite) : Int :=
  let n := x.numerator
  let d := x.denominator
  if d ≤ n then Decimal.digitCount (n / d)
  else 1 - (Decimal.digitCount ((d + n - 1) / n - 1) : Int)

/-- The absolute value counted in units of `10 ^ unit`, as a fraction. -/
def inUnits (x : Finite) (unit : Int) : Nat × Nat :=
  if 0 ≤ unit then (x.numerator, x.denominator * 10 ^ unit.toNat)
  else (x.numerator * 10 ^ (-unit).toNat, x.denominator)

/-- Whether `digits · 10 ^ unit` with the sign of `x` reads back as `x`. -/
def readsBack (x : Finite) (digits : Nat) (unit : Int) : Bool :=
  Decimal.toBinary64 ⟨x.negative, digits, unit⟩ == .finite x

/-- The grid point of `10 ^ unit` that is written for `x`, if one of the two around it reads back
    as `x`. -/
def onGrid? (tie : Tie) (x : Finite) (unit : Int) : Option Nat :=
  let (n, d) := x.inUnits unit
  let below := n / d
  let above := below + 1
  let twice := 2 * (n % d)
  let nearest :=
    if twice < d then below
    else if d < twice then above
    else match tie with
      | .up => above
      | .even => if below % 2 = 0 then below else above
  let other := if nearest = below then above else below
  if x.readsBack nearest unit then some nearest
  else if x.readsBack other unit then some other
  else none

/-- The first grid that has a point for `x`, among those of `count`, `count + 1`, … digits. -/
def searchGrids (tie : Tie) (x : Finite) (point : Int) : Nat → Nat → Option (Nat × Int)
  | 0, _ => none
  | left + 1, count =>
      let unit := point - count
      match x.onGrid? tie unit with
      | some digits => some (digits, unit)
      | none => searchGrids tie x point left (count + 1)

/-- The exact digits of `x`: a whole number of units `10 ^ -1074`. -/
def exactDigits (x : Finite) : Nat × Int :=
  (x.significand * 2 ^ x.exponent * 5 ^ 1074, -1074)

end Binary64.Finite

/-- Digits without the zeros at their end; `fuel` bounds how many are taken off. -/
def stripZeros : Nat → Nat × Int → Nat × Int
  | 0, d => d
  | fuel + 1, (digits, unit) =>
      if digits ≠ 0 ∧ digits % 10 = 0 then stripZeros fuel (digits / 10, unit + 1)
      else (digits, unit)

/-- The shortest decimal number that reads back as `x`. -/
def Binary64.Finite.shortest (tie : Tie) (x : Binary64.Finite) : Decimal :=
  if x.significand = 0 then ⟨x.negative, 0, 0⟩
  else
    let (digits, unit) := (x.searchGrids tie x.pointPosition 17 1).getD x.exactDigits
    let (digits, unit) := stripZeros (Decimal.digitCount digits) (digits, unit)
    ⟨x.negative, digits, unit⟩

end CodeBlock
