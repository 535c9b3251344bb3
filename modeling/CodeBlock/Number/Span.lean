import CodeBlock.Number.Decimal

set_option autoImplicit false

/-! # Numbers at the start of texts

A number at the start of a text has digits with a point among them, and perhaps a power of ten; or it has
digits of base sixteen behind `0x`; or it is one of the words for what is infinite or not a number. It is
read as far as it goes, and rounded once. -/

namespace CodeBlock

/-- The value of a digit of base sixteen. -/
def sixteenValue? (c : Char) : Option Nat :=
  if c.isDigit then some (c.toNat - 48)
  else if 'a' ≤ c ∧ c ≤ 'f' then some (c.toNat - 87)
  else if 'A' ≤ c ∧ c ≤ 'F' then some (c.toNat - 55)
  else none

/-- The power behind a letter, and what follows; without digits there is none. -/
def spanPower (letter : Char) (s : List Char) : Int × List Char :=
  match s with
  | e :: rest =>
      if e.toLower = letter then
        let (negative, digits) := match rest with
          | '-' :: rest => (true, rest)
          | '+' :: rest => (false, rest)
          | rest => (false, rest)
        let written := digits.takeWhile Char.isDigit
        if written.isEmpty then (0, s)
        else
          let size : Int := (Decimal.valueOfDigits (written.take 9) : Nat)
          (if negative then -size else size, digits.drop written.length)
      else (0, s)
  | [] => (0, [])

/-- Digits with a point among them: all digits, how many of them stand behind the point, and what
    follows; nothing if there are none. -/
def spanPointed (isDigit : Char → Bool) (s : List Char) : Option (List Char × Nat × List Char) :=
  let whole := s.takeWhile isDigit
  let rest := s.drop whole.length
  let (fraction, rest) := match rest with
    | '.' :: more =>
        let fraction := more.takeWhile isDigit
        if whole.isEmpty && fraction.isEmpty then ([], rest)
        else (fraction, more.drop fraction.length)
    | rest => ([], rest)
  if whole.isEmpty && fraction.isEmpty then none
  else some (whole ++ fraction, fraction.length, rest)

/-- Whether a text starts with a word of small letters, in letters of any size. -/
def startsWithWord (word : String) (s : List Char) : Bool :=
  word.toList.isPrefixOf ((s.take word.length).map Char.toLower)

/-- A number without a sign, with the sign that it is to get. -/
def spanUnsigned (special : Bool) (negative : Bool) (s : List Char) :
    Option (Binary64 × List Char) :=
  if special && startsWithWord "infinity" s then some (.infinite negative, s.drop 8)
  else if special && startsWithWord "inf" s then some (.infinite negative, s.drop 3)
  else if special && startsWithWord "nan" s then some (.nan, s.drop 3)
  else
    match if special && startsWithWord "0x" s then
        spanPointed (fun c => (sixteenValue? c).isSome) (s.drop 2) else none with
    | some (digits, places, rest) =>
        let (power, rest) := spanPower 'p' rest
        let n := digits.foldl (fun n c => 16 * n + (sixteenValue? c).getD 0) 0
        let shift := max (-10000) (min 10000 (power - 4 * places))
        some (
          if n = 0 then .zero negative
          else if 0 ≤ shift then .ofRatio negative (n * 2 ^ shift.toNat) 1
          else .ofRatio negative n (2 ^ (-shift).toNat), rest)
    | none =>
        match spanPointed Char.isDigit s with
        | none => none
        | some (digits, places, rest) =>
            let (power, rest) := spanPower 'e' rest
            some (Decimal.toBinary64 ⟨negative, Decimal.valueOfDigits digits, power - places⟩, rest)

/-- The number that a text starts with, after its sign, and what follows; `special` says whether base
    sixteen and words count. -/
def spanBinary64 (special : Bool) (s : List Char) : Option (Binary64 × List Char) :=
  match s with
  | '-' :: rest => spanUnsigned special true rest
  | '+' :: rest => spanUnsigned special false rest
  | s => spanUnsigned special false s

end CodeBlock
