import CodeBlock.Number.Span
import CodeBlock.Number.Sum

set_option autoImplicit false

/-! # Values of scripts over records

A value is a number or a text. A text that was read and looks like a number counts as one in
comparisons and conditions. What was never set is an empty text, and zero. -/

namespace CodeBlock.Shell.Records

/-- Values. -/
inductive Value where
  | unset
  | number (x : Binary64)
  | text (s : List Char)
  /-- A text that was read and looks like a number. -/
  | numeric (s : List Char) (x : Binary64)
  deriving Repr

instance : Inhabited Value := ⟨.unset⟩

/-- Whether a character counts as blank. -/
def isBlank (c : Char) : Bool := c == ' ' || (decide ('\t' ≤ c) && decide (c ≤ '\r'))

namespace Value

/-- The value of a natural number. -/
def ofNat (n : Nat) : Value := .number (.ofNat n)

/-- The value of a truth. -/
def ofBool (b : Bool) : Value := ofNat (if b then 1 else 0)

/-- The value of a text that was read. It looks like a number if a number is all of it but for blanks, and
    the last character is a digit or a point. -/
def ofInput (s : List Char) : Value :=
  let last? := s.reverse.find? fun c => !isBlank c
  if last?.any fun c => c.isDigit || c == '.' then
    match spanBinary64 true (s.dropWhile isBlank) with
    | some (x, rest) => if rest.all isBlank then .numeric s x else .text s
    | none => .text s
  else .text s

def numberOfText (s : List Char) : Binary64 :=
  match spanBinary64 true (s.dropWhile isBlank) with
  | some (x, _) => x
  | none => .zero false

def toNumber : Value → Binary64
  | unset => .zero false
  | number x => x
  | text s => numberOfText s
  | numeric _ x => x

/-- A value as a text; `write` writes numbers. -/
def toText (write : Binary64 → List Char) : Value → List Char
  | unset => []
  | number x => write x
  | text s => s
  | numeric s _ => s

/-- Whether a value counts as true. -/
def isTrue : Value → Bool
  | unset => false
  | number x => !x.isZero
  | text s => !s.isEmpty
  | numeric _ x => !x.isZero

/-- Whether a value is compared as a text. -/
def isText : Value → Bool
  | text _ => true
  | _ => false

/-- The order of two texts. -/
def compareTexts : List Char → List Char → Ordering
  | [], [] => .eq
  | [], _ => .lt
  | _, [] => .gt
  | a :: s, b :: t => if a < b then .lt else if b < a then .gt else compareTexts s t

/-- The order of two values: that of numbers, unless one of them is a text. -/
def compare (write : Binary64 → List Char) (a b : Value) : Ordering :=
  if a.isText || b.isText then compareTexts (a.toText write) (b.toText write)
  else (Binary64.compare? a.toNumber b.toNumber).getD .eq

/-- The whole number that a value is cut to, within the bounds of signed words and of words. -/
def toWhole (a : Value) : Int :=
  match a.toNumber with
  | .nan => -(2 ^ 63)
  | .infinite negative => if negative then -(2 ^ 63 - 1) else 2 ^ 64 - 1
  | .finite x => max (-(2 ^ 63 - 1)) (min (2 ^ 64 - 1) x.truncate)

end Value

end CodeBlock.Shell.Records
