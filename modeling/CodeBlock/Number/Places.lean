import CodeBlock.Number.Shortest

set_option autoImplicit false

/-! # Numbers with a given count of digits

A number is written with so many places behind the point, or with so many digits and a power of ten. The
digits are those of the exact value, rounded once to the nearest, and from the middle to the even one. A
third form takes the shorter of the two, without zeros at its end. -/

namespace CodeBlock

namespace Binary64.Finite

/-- The digits with so many places behind the point; a point without places is written if `pointed`. -/
def fixedText (x : Finite) (places : Nat) (pointed : Bool) : List Char :=
  let digits := Nat.toDigits 10 (roundHalfEven (x.numerator * 10 ^ places) x.denominator)
  let digits := List.replicate (places + 1 - digits.length) '0' ++ digits
  let whole := digits.take (digits.length - places)
  if places = 0 then whole ++ (if pointed then ['.'] else [])
  else whole ++ '.' :: digits.drop (digits.length - places)

/-- The value rounded to so many digits behind the first one, and the power of ten of the first one. -/
def leadingDigits (x : Finite) (places : Nat) : Nat × Int :=
  if x.significand = 0 then (0, 0)
  else
    let power := x.pointPosition - 1
    let (n, d) := x.inUnits (power - places)
    let digits := roundHalfEven n d
    if digits = 10 ^ (places + 1) then (10 ^ places, power + 1) else (digits, power)

/-- The power of ten behind a letter, with a sign and at least two digits. -/
def powerText (letter : Char) (power : Int) : List Char :=
  let digits := Nat.toDigits 10 power.natAbs
  letter :: (if power < 0 then '-' else '+') ::
    (List.replicate (2 - digits.length) '0' ++ digits)

/-- The digits with so many places behind the first one and a power of ten behind `letter`. -/
def scientificText (x : Finite) (letter : Char) (places : Nat) (pointed : Bool) : List Char :=
  let (digits, power) := x.leadingDigits places
  let written := Nat.toDigits 10 digits
  let written := List.replicate (places + 1 - written.length) '0' ++ written
  written.take 1 ++ (if places = 0 && !pointed then [] else '.' :: written.drop 1) ++
    powerText letter power

def withoutZeros (s : List Char) : List Char :=
  if s.contains '.' then
    let trimmed := (s.reverse.dropWhile (· == '0'))
    (if trimmed.head? = some '.' then trimmed.drop 1 else trimmed).reverse
  else s

/-- The shorter form of so many digits: with a power of ten if that is below minus four or not below the
    number of digits. Zeros at the end stay if `full`. -/
def shorterText (x : Finite) (letter : Char) (digits : Nat) (full : Bool) : List Char :=
  let digits := max 1 digits
  let (_, power) := x.leadingDigits (digits - 1)
  if power < -4 ∨ (digits : Int) ≤ power then
    let text := x.scientificText letter (digits - 1) full
    if full then text
    else
      let mantissa := text.takeWhile (· != letter)
      withoutZeros mantissa ++ text.drop mantissa.length
  else
    let text := x.fixedText ((digits : Int) - 1 - power).toNat full
    if full then text else withoutZeros text

end Binary64.Finite

namespace Binary64

/-- Whether the sign is negative; a value that is not a number has none. -/
def isNegative : Binary64 → Bool
  | nan => false
  | infinite negative => negative
  | finite x => x.negative

/-- The ways of writing a number with a count of digits. -/
inductive Form where
  | fixed
  | scientific
  | shorter
  deriving DecidableEq, Repr

/-- A number without its sign, with a count of digits. -/
def text (form : Form) (capital : Bool) (count : Nat) (full : Bool) (a : Binary64) : List Char :=
  let letter := if capital then 'E' else 'e'
  match a with
  | nan => (if capital then "NAN" else "nan").toList
  | infinite _ => (if capital then "INF" else "inf").toList
  | finite x =>
      match form with
      | .fixed => x.fixedText count full
      | .scientific => x.scientificText letter count full
      | .shorter => x.shorterText letter count full

end Binary64

end CodeBlock
