import CodeBlock.Number.Decimal
import CodeBlock.Text.Alphabetic
import CodeBlock.Text.Blank
import CodeBlock.Value.Basic

set_option autoImplicit false

/-! # Listings

A **listing** is the text that an interpreter prints for an array: brackets around texts in any of
three quotes, numbers, bare words and further listings, with commas or blanks between them. The
output of a run that is a listing from end to end stands for a sequence; any other output, and a
listing of more than 512 levels, is taken as text. -/

namespace CodeBlock

/-- What the output of a run stands for. -/
inductive Decoded where
  | structured (value : Value)
  | raw (text : String)

namespace Listing

/-- How deep listings may be nested. -/
def maxLevels : Nat := 512

/-! ## Words -/

/-- Whether a bare word may start with `c`. -/
def isWordStart (c : Char) : Bool := Text.isAlphabetic c || c == '_' || c == '$'

/-- Whether `c` may stand inside a bare word. -/
def isWordChar (c : Char) : Bool := Text.isAlphanumeric c || c == '_' || c == '$'

/-- The leaf that a bare word stands for; `negative` says that a minus sign came before it. -/
def wordValue (negative : Bool) (word : List Char) : Scalar :=
  match String.ofList word with
  | "true" => .bool true
  | "false" => .bool false
  | "Infinity" => .float (.infinite negative)
  | "NaN" => .float .nan
  | other => .atom other

/-! ## Numbers -/

/-- The leading characters that may belong to a number: digits, points, the letter of a power of
    ten, and a sign directly after such a letter. -/
def spanNumber (previous : Char) : List Char → List Char × List Char
  | [] => ([], [])
  | c :: rest =>
      if c.isDigit || c == '.' || c == 'e' || c == 'E' ||
          ((c == '+' || c == '-') && (previous == 'e' || previous == 'E')) then
        let (number, rest) := spanNumber c rest
        (c :: number, rest)
      else ([], c :: rest)

/-- Whether a minus sign comes first, and what follows the sign; there may be none. -/
def splitSign : List Char → Bool × List Char
  | '+' :: rest => (false, rest)
  | '-' :: rest => (true, rest)
  | rest => (false, rest)

/-- The power of ten that a text with its letter denotes; none means no power. -/
def power? : List Char → Option Int
  | [] => some 0
  | c :: rest =>
      if c == 'e' || c == 'E' then
        let (negative, digits) := splitSign rest
        if digits.isEmpty || !digits.all Char.isDigit then none
        else
          let power : Int := Decimal.valueOfDigits digits
          some (if negative then -power else power)
      else none

/-- The decimal number that a text without sign denotes. -/
def decimal? (negative : Bool) (s : List Char) : Option Decimal :=
  let (whole, rest) := s.span Char.isDigit
  let (fraction, rest) := match rest with
    | '.' :: rest => rest.span Char.isDigit
    | rest => ([], rest)
  if whole.isEmpty && fraction.isEmpty then none
  else
    (power? rest).map fun power =>
      ⟨negative, Decimal.valueOfDigits (whole ++ fraction), power - fraction.length⟩

/-- The whole number that digits denote behind a sign. -/
def signed (negative : Bool) (digits : List Char) : Int :=
  if negative then -(Decimal.valueOfDigits digits : Int) else Decimal.valueOfDigits digits

/-- The whole number that a text without sign denotes, if it is one and 64 bits hold it. -/
def whole? (negative : Bool) (s : List Char) : Option Int64 :=
  if s.isEmpty || !s.all Char.isDigit then none else Value.int64? (signed negative s)

/-- The number that a text without sign denotes: a whole number if it is one and 64 bits hold it,
    and else the nearest floating-point number. -/
def number? (negative : Bool) (s : List Char) : Option Scalar :=
  match whole? negative s with
  | some i => some (.int i)
  | none => (decimal? negative s).map fun d => .float d.toBinary64

/-- Reads a number after its sign; a sign may also stand before the words for what is infinite and
    for what is no number. -/
def readNumber (negative : Bool) (s : List Char) : Option (Scalar × List Char) :=
  match s with
  | [] => none
  | c :: _ =>
      if Text.isAlphabetic c then
        let (word, rest) := s.span isWordChar
        match wordValue negative word with
        | .float x => some (.float x, rest)
        | _ => none
      else
        let (number, rest) := spanNumber ' ' s
        (number? negative number).map fun leaf => (leaf, rest)

/-! ## Texts -/

/-- The value of a hexadecimal digit. -/
def hexDigit? (c : Char) : Option Nat :=
  if c.isDigit then some (c.toNat - 48)
  else if 'a' ≤ c ∧ c ≤ 'f' then some (c.toNat - 87)
  else if 'A' ≤ c ∧ c ≤ 'F' then some (c.toNat - 55)
  else none

/-- The value of a row of hexadecimal digits. -/
def hexNumber? (digits : List Char) : Option Nat :=
  digits.foldlM (fun n c => (hexDigit? c).map (16 * n + ·)) 0

/-- The character with a code point, if there is one. -/
def charOfCode? (n : Nat) : Option Char :=
  if n.isValidChar then some (Char.ofNat n) else none

/-- The 32-bit number of a row of hexadecimal digits. -/
def code? (digits : List Char) : Option Nat :=
  if digits.isEmpty then none
  else
    match hexNumber? digits with
    | some n => if n < 2 ^ 32 then some n else none
    | none => none

/-- The 32-bit number in braces: digits, and a plus sign before them if one likes. -/
def bracedCode? (s : List Char) : Option Nat :=
  match s with
  | '+' :: digits => code? digits
  | digits => code? digits

/-- Reads an escape by code with a fixed number of digits. -/
def readCode (count : Nat) (s : List Char) : Option (Char × List Char) :=
  if s.length < count then none
  else do
    let n ← hexNumber? (s.take count)
    let c ← charOfCode? n
    return (c, s.drop count)

/-- Reads an escape after its backslash. A character that has no meaning there stands for itself. -/
def readEscape (s : List Char) : Option (Char × List Char) :=
  match s with
  | [] => none
  | 'n' :: rest => some ('\n', rest)
  | 't' :: rest => some ('\t', rest)
  | 'r' :: rest => some ('\r', rest)
  | 'b' :: rest => some ('\x08', rest)
  | 'f' :: rest => some ('\x0c', rest)
  | 'v' :: rest => some ('\x0b', rest)
  | '0' :: rest => some ('\x00', rest)
  | 'x' :: rest => readCode 2 rest
  | 'u' :: '{' :: rest =>
      match rest.span (· != '}') with
      | (digits, _ :: rest) => do
          let n ← bracedCode? digits
          let c ← charOfCode? n
          return (c, rest)
      | (_, []) => none
  | 'u' :: rest => readCode 4 rest
  | c :: rest => some (c, rest)

/-- Reads a text up to its closing quote; `done` holds the characters before, last one first, and
    `fuel` bounds their number. -/
def readText (quote : Char) (done : List Char) : Nat → List Char → Option (List Char × List Char)
  | 0, _ => none
  | _ + 1, [] => none
  | fuel + 1, c :: rest =>
      if c = quote then some (done.reverse, rest)
      else if c = '\\' then
        match readEscape rest with
        | some (e, rest) => readText quote (e :: done) fuel rest
        | none => none
      else readText quote (c :: done) fuel rest

/-! ## Listings -/

/-- Whether `c` separates the elements of a listing. -/
def isSeparator (c : Char) : Bool := c == ',' || Text.isBlank c

/-- Whether an element may end before this text: a separator or the closing bracket is next. -/
def endsElement : List Char → Bool
  | [] => false
  | c :: _ => c == ']' || isSeparator c

mutual

/-- Reads an element; `levels` says how many listings may still be opened, and `fuel` bounds the
    steps. -/
def readElement (levels : Nat) : Nat → List Char → Option (Value × List Char)
  | 0, _ => none
  | _ + 1, [] => none
  | fuel + 1, c :: rest =>
      if c = '[' then
        match levels with
        | 0 => none
        | levels + 1 =>
            (readElements levels fuel rest).map fun (items, rest) => (.sequence items, rest)
      else if c = '"' || c = '\'' || c = '\x60' then
        (readText c [] (rest.length + 1) rest).map fun (text, rest) =>
          (.scalar (.str (String.ofList text)), rest)
      else if c = '-' || c = '+' then
        (readNumber (c == '-') rest).map fun (leaf, rest) => (.scalar leaf, rest)
      else if c.isDigit || c = '.' then
        (readNumber false (c :: rest)).map fun (leaf, rest) => (.scalar leaf, rest)
      else if isWordStart c then
        let (word, rest) := (c :: rest).span isWordChar
        some (.scalar (wordValue false word), rest)
      else none

/-- Reads the elements of a listing up to its closing bracket. -/
def readElements (levels : Nat) : Nat → List Char → Option (List Value × List Char)
  | 0, _ => none
  | fuel + 1, s =>
      match s.dropWhile isSeparator with
      | [] => none
      | c :: rest =>
          if c = ']' then some ([], rest)
          else
            match readElement levels fuel (c :: rest) with
            | none => none
            | some (item, rest) =>
                if endsElement rest then
                  (readElements levels fuel rest).map fun (items, rest) => (item :: items, rest)
                else none

end

/-- The sequence that a text denotes as a whole, if it is a listing. -/
def ofText? (s : List Char) : Option Value :=
  match s with
  | '[' :: _ =>
      match readElement maxLevels (2 * s.length + 2) s with
      | some (value, rest) => if (Text.trimStart rest).isEmpty then some value else none
      | none => none
  | _ => none

end Listing

/-- What an output stands for: a sequence if it is a listing between blanks, and else itself. -/
def decode (output : String) : Decoded :=
  match Listing.ofText? (Text.trim output.toList) with
  | some value => .structured value
  | none => .raw output

end CodeBlock
