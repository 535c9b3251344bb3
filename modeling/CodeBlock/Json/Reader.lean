import CodeBlock.Json.Failure
import CodeBlock.Number.Decimal
import CodeBlock.Table

set_option autoImplicit false

/-! # Reading JSON

The reader goes through the text once, from the left, and stops at the first thing that is wrong.
Arrays and objects may be nested up to a depth; a number with a fraction or a power of ten, or too
large for the whole numbers, is rounded in two steps, as fast readers do: the leading digits are
gathered into a 64-bit whole number, and this is multiplied or divided once by a power of ten.

A member that nobody asked for is **skipped**: its value must be JSON, but it may be nested to any
depth and its numbers may have any size. -/

namespace CodeBlock.Json

/-- How deep arrays and objects may be nested, plus one. -/
def maxDepth : Nat := 128

def isBlank (c : Char) : Bool := c == ' ' || c == '\n' || c == '\t' || c == '\r'

/-- The text without the blanks that it starts with. -/
def skipBlanks (s : List Char) : List Char := s.dropWhile isBlank

/-- Reads the rest of a fixed word. -/
def readWord (word s : List Char) : Except Failure (List Char) :=
  match word, s with
  | [], s => .ok s
  | _ :: _, [] => failHere .endInValue []
  | c :: word, d :: rest => if c = d then readWord word rest else failNext .expectedWord (d :: rest)

/-! ## Strings -/

/-- The value of a hexadecimal digit. -/
def hexValue? (c : Char) : Option Nat :=
  if c.isDigit then some (c.toNat - 48)
  else if 'a' ≤ c ∧ c ≤ 'f' then some (c.toNat - 87)
  else if 'A' ≤ c ∧ c ≤ 'F' then some (c.toNat - 55)
  else none

/-- The value of a row of hexadecimal digits. -/
def hexNumber? (digits : List Char) : Option Nat :=
  digits.foldlM (fun n c => (hexValue? c).map (16 * n + ·)) 0

/-- Reads the four digits of an escape by code. -/
def readHex (s : List Char) : Except Failure (Nat × List Char) :=
  match s with
  | a :: b :: c :: d :: rest =>
      match hexNumber? [a, b, c, d] with
      | some n => .ok (n, rest)
      | none => .error ⟨.invalidEscape, s, 4⟩
  | short =>
      if (Text.toBytes short).length < 4 then failHere .endInString []
      else .error ⟨.invalidEscape, s, 4⟩

/-- The character of a one-letter escape. -/
def shortEscape? (c : Char) : Option Char :=
  match c with
  | '"' => some '"'
  | '\\' => some '\\'
  | '/' => some '/'
  | 'b' => some '\x08'
  | 'f' => some '\x0c'
  | 'n' => some '\n'
  | 'r' => some '\r'
  | 't' => some '\t'
  | _ => none

/-- Reads the second half of a pair of escapes that together give one character. -/
def readTrailing (leading : Nat) (s : List Char) : Except Failure (Char × List Char) :=
  match s with
  | [] => failHere .endInString []
  | '\\' :: [] => failHere .endInString []
  | '\\' :: 'u' :: rest => do
      let (n, rest) ← readHex rest
      if n < 0xDC00 ∨ 0xDFFF < n then failHere .loneSurrogate rest
      else .ok (Char.ofNat ((leading - 0xD800) * 0x400 + (n - 0xDC00) + 0x10000), rest)
  | '\\' :: rest => failNext .unfinishedSurrogate rest
  | s => failNext .unfinishedSurrogate s

/-- Reads an escape after its backslash. -/
def readEscape (s : List Char) : Except Failure (Char × List Char) :=
  match s with
  | [] => failHere .endInString []
  | 'u' :: rest => do
      let (n, rest) ← readHex rest
      if 0xDC00 ≤ n ∧ n ≤ 0xDFFF then failHere .loneSurrogate rest
      else if 0xD800 ≤ n ∧ n ≤ 0xDBFF then readTrailing n rest
      else .ok (Char.ofNat n, rest)
  | c :: rest =>
      match shortEscape? c with
      | some e => .ok (e, rest)
      | none => failNext .invalidEscape (c :: rest)

/-- Reads a string after its opening quote; `done` holds the characters before, last one first, and
    `fuel` bounds the number of characters. -/
def readStringFrom (done : List Char) : Nat → List Char → Except Failure (String × List Char)
  | 0, s => failHere .endInString s
  | _ + 1, [] => failHere .endInString []
  | fuel + 1, c :: rest =>
      if c = '"' then .ok (String.ofList done.reverse, rest)
      else if c = '\\' then
        match readEscape rest with
        | .ok (e, rest) => readStringFrom (e :: done) fuel rest
        | .error failure => .error failure
      else if c.toNat < 0x20 then failHere .controlCharacter rest
      else readStringFrom (c :: done) fuel rest

/-- Reads a string after its opening quote. -/
def readString (s : List Char) : Except Failure (String × List Char) := readStringFrom [] (s.length + 1) s

/-! ## Numbers -/

/-- The largest number that digits are gathered into. -/
def gatherLimit : Nat := 2 ^ 64 - 1

/-- Gathers leading digits while they fit and counts them, and counts the digits that no longer
    fit: the number, the digits taken into it, the digits left out, and the rest of the text. -/
def gather (value kept dropped : Nat) : List Char → Nat × Nat × Nat × List Char
  | [] => (value, kept, dropped, [])
  | c :: rest =>
      if c.isDigit then
        let next := value * 10 + (c.toNat - 48)
        if dropped = 0 ∧ next ≤ gatherLimit then gather next (kept + 1) 0 rest
        else gather value kept (dropped + 1) rest
      else (value, kept, dropped, c :: rest)

def powerOfTen (exponent : Nat) : Binary64 := Decimal.toBinary64 ⟨false, 1, exponent⟩

/-- A number times a power of ten, in steps of at most 308 places; nothing when it is too large. -/
def scale (x : Binary64) (exponent : Int) : Nat → Option Binary64
  | 0 => some (Binary64.zero false)
  | fuel + 1 =>
      if exponent.natAbs ≤ 308 then
        if 0 ≤ exponent then
          let product := x.mul (powerOfTen exponent.natAbs)
          if product.isInfinite then none else some product
        else some (x.div (powerOfTen exponent.natAbs))
      else if x.isZero then some x
      else if 0 ≤ exponent then none
      else scale (x.div (powerOfTen 308)) (exponent + 308) fuel

/-- The number `± significand · 10 ^ exponent` that was read up to `rest`. -/
def readScaled (positive : Bool) (significand : Nat) (exponent : Int) (rest : List Char) :
    Except Failure (Json × List Char) :=
  match scale (Binary64.ofNat significand) exponent 4 with
  | some (.finite x) => .ok (.float (if positive then x else { x with negative := !x.negative }), rest)
  | _ => failHere .numberOutOfRange rest

/-- The largest power of ten that is kept as it is written. -/
def powerLimit : Nat := 2 ^ 31 - 1

/-- Reads the digits of a power of ten, as far as they keep within the limit: the power, and whether
    it went beyond, with the text after the last digit looked at. -/
def gatherPower (power : Nat) : List Char → Nat × Bool × List Char
  | [] => (power, false, [])
  | c :: rest =>
      if c.isDigit then
        let next := power * 10 + (c.toNat - 48)
        if powerLimit < next then (power, true, rest) else gatherPower next rest
      else (power, false, c :: rest)

def signedZero (positive : Bool) : Json := .float ⟨!positive, 0, 0, Binary64.stored_zero⟩

/-- Reads a power of ten after its letter. -/
def readPower (positive : Bool) (significand : Nat) (exponent : Int) (s : List Char) :
    Except Failure (Json × List Char) :=
  let (upward, s) := match s with
    | '+' :: rest => (true, rest)
    | '-' :: rest => (false, rest)
    | s => (true, s)
  match s with
  | [] => failHere .endInValue []
  | c :: rest =>
      if c.isDigit then
        let (power, beyond, rest) := gatherPower (c.toNat - 48) rest
        if beyond then
          if significand ≠ 0 ∧ upward then failHere .numberOutOfRange rest
          else .ok (signedZero positive, rest.dropWhile Char.isDigit)
        else readScaled positive significand (if upward then exponent + power else exponent - power) rest
      else failNext .invalidNumber (c :: rest)

/-- Reads what may follow the digits before a power of ten. -/
def readAfterDigits (positive : Bool) (significand : Nat) (exponent : Int) (s : List Char) :
    Except Failure (Json × List Char) :=
  match s with
  | 'e' :: rest => readPower positive significand exponent rest
  | 'E' :: rest => readPower positive significand exponent rest
  | s => readScaled positive significand exponent s

/-- Reads a fraction after its point. -/
def readFraction (positive : Bool) (significand : Nat) (exponent : Int) (s : List Char) :
    Except Failure (Json × List Char) :=
  let (value, kept, dropped, rest) := gather significand 0 0 s
  if kept + dropped = 0 then
    match rest with
    | [] => failHere .endInValue []
    | rest => failNext .invalidNumber rest
  else readAfterDigits positive value (exponent - kept) rest

/-- Reads what follows the whole part of a number. -/
def readAfterWhole (positive : Bool) (value dropped : Nat) (s : List Char) : Except Failure (Json × List Char) :=
  match s with
  | '.' :: rest => readFraction positive value dropped rest
  | 'e' :: rest => readPower positive value dropped rest
  | 'E' :: rest => readPower positive value dropped rest
  | s =>
      if dropped ≠ 0 then readScaled positive value dropped s
      else if positive then .ok (.integer value, s)
      else if value = 0 ∨ 2 ^ 63 < value then readScaled false value 0 s
      else .ok (.integer (-value), s)

/-- Reads a number after its sign. -/
def readNumber (positive : Bool) (s : List Char) : Except Failure (Json × List Char) :=
  match s with
  | [] => failHere .endInValue []
  | '0' :: rest =>
      match rest with
      | c :: _ =>
          if c.isDigit then failNext .invalidNumber rest else readAfterWhole positive 0 0 rest
      | [] => readAfterWhole positive 0 0 []
  | c :: rest =>
      if c.isDigit then
        let (value, _, dropped, rest) := gather 0 0 0 (c :: rest)
        readAfterWhole positive value dropped rest
      else failNext .invalidNumber (c :: rest)

/-! ## Values -/

/-- The text after the next blanks, which must go on; `atEnd` says why it must. -/
def demand (atEnd : Cause) (s : List Char) : Except Failure (Char × List Char) :=
  match skipBlanks s with
  | [] => failHere atEnd []
  | c :: rest => .ok (c, rest)

/-- Whether an array goes on after its opening bracket or after an element, and from where. -/
def nextItem (first : Bool) (s : List Char) : Except Failure (Option (List Char)) := do
  let (c, rest) ← demand .endInList s
  if c = ']' then .ok none
  else if first then .ok (some (c :: rest))
  else if c = ',' then
    let (d, rest) ← demand .endInValue rest
    if d = ']' then failNext .trailingComma (d :: rest) else .ok (some (d :: rest))
  else failNext .expectedListEnd (c :: rest)

/-- Whether an object goes on after its opening brace or after a member, and from where: the text
    after the quote that opens the next key. -/
def nextKey (first : Bool) (s : List Char) : Except Failure (Option (List Char)) := do
  let (c, rest) ← demand .endInObject s
  if c = '}' then .ok none
  else if first then
    if c = '"' then .ok (some rest) else failNext .keyNotString (c :: rest)
  else if c = ',' then
    let (d, rest) ← demand .endInValue rest
    if d = '"' then .ok (some rest)
    else if d = '}' then failNext .trailingComma (d :: rest)
    else failNext .keyNotString (d :: rest)
  else failNext .expectedObjectEnd (c :: rest)

/-- The text after the closing bracket or brace that comes next. -/
def close (s : List Char) : List Char := (skipBlanks s).drop 1

def readColon (s : List Char) : Except Failure (List Char) := do
  let (c, rest) ← demand .endInObject s
  if c = ':' then .ok rest else failNext .expectedColon (c :: rest)

mutual

/-- Reads a value; `depth` is one more than how many levels may still be opened, and `fuel` bounds
    the steps. -/
def readValueFrom (depth : Nat) : Nat → List Char → Except Failure (Json × List Char)
  | 0, s => failHere .tooDeep s
  | fuel + 1, s =>
      match skipBlanks s with
      | [] => failHere .endInValue []
      | c :: rest =>
          if c = 'n' then do
            let rest ← readWord ['u', 'l', 'l'] rest
            return (.null, rest)
          else if c = 't' then do
            let rest ← readWord ['r', 'u', 'e'] rest
            return (.bool true, rest)
          else if c = 'f' then do
            let rest ← readWord ['a', 'l', 's', 'e'] rest
            return (.bool false, rest)
          else if c = '-' then readNumber false rest
          else if c.isDigit then readNumber true (c :: rest)
          else if c = '"' then do
            let (s, rest) ← readString rest
            return (.string s, rest)
          else if c = '[' then
            if depth ≤ 1 then failNext .tooDeep (c :: rest)
            else do
              let (items, rest) ← readItemsFrom (depth - 1) true fuel rest
              return (.array items, rest)
          else if c = '{' then
            if depth ≤ 1 then failNext .tooDeep (c :: rest)
            else do
              let (members, rest) ← readMembersFrom (depth - 1) true fuel rest
              return (.object (Table.ofEntries members), rest)
          else failNext .expectedValue (c :: rest)

/-- Reads the elements of an array up to its closing bracket. -/
def readItemsFrom (depth : Nat) (first : Bool) : Nat → List Char → Except Failure (List Json × List Char)
  | 0, s => failHere .tooDeep s
  | fuel + 1, s => do
      match ← nextItem first s with
      | none => return ([], close s)
      | some s =>
          let (item, rest) ← readValueFrom depth fuel s
          let (items, rest) ← readItemsFrom depth false fuel rest
          return (item :: items, rest)

/-- Reads the members of an object up to its closing brace. -/
def readMembersFrom (depth : Nat) (first : Bool) : Nat → List Char →
    Except Failure (List (String × Json) × List Char)
  | 0, s => failHere .tooDeep s
  | fuel + 1, s => do
      match ← nextKey first s with
      | none => return ([], close s)
      | some s =>
          let (key, rest) ← readString s
          let rest ← readColon rest
          let (value, rest) ← readValueFrom depth fuel rest
          let (members, rest) ← readMembersFrom depth false fuel rest
          return ((key, value) :: members, rest)

end

/-- How many steps reading a text can take. -/
def stepsFor (s : List Char) : Nat := 2 * s.length + 2

/-- Reads a value inside containers of which `depth` says how many may still be opened. -/
def readValue (depth : Nat) (s : List Char) : Except Failure (Json × List Char) :=
  readValueFrom depth (stepsFor s) s

/-- A text may end in blanks and in nothing else. -/
def expectEnd {α : Type} (reading : α × List Char) : Except Failure α :=
  match skipBlanks reading.2 with
  | [] => .ok reading.1
  | rest => failNext .trailingCharacters rest

/-- The value that a whole text denotes. -/
def ofText (s : List Char) : Except Failure Json := readValue maxDepth s >>= expectEnd

/-! ## Skipping -/

/-- Skips a string after its opening quote. -/
def skipStringFrom : Nat → List Char → Except Failure (List Char)
  | 0, s => failHere .endInString s
  | _ + 1, [] => failHere .endInString []
  | fuel + 1, c :: rest =>
      if c = '"' then .ok rest
      else if c = '\\' then
        match rest with
        | [] => failHere .endInString []
        | 'u' :: rest =>
            match readHex rest with
            | .ok (_, rest) => skipStringFrom fuel rest
            | .error failure => .error failure
        | e :: rest =>
            if (shortEscape? e).isSome then skipStringFrom fuel rest
            else failNext .invalidEscape (e :: rest)
      else if c.toNat < 0x20 then failHere .controlCharacter (c :: rest)
      else skipStringFrom fuel rest

/-- Skips a string after its opening quote. -/
def skipString (s : List Char) : Except Failure (List Char) := skipStringFrom (s.length + 1) s

/-- Skips a power of ten after its letter. -/
def skipPower (s : List Char) : Except Failure (List Char) :=
  let s := match s with
    | '+' :: rest => rest
    | '-' :: rest => rest
    | s => s
  match s with
  | [] => failHere .invalidNumber []
  | c :: rest =>
      if c.isDigit then .ok (rest.dropWhile Char.isDigit) else failNext .invalidNumber (c :: rest)

def skipPower? (s : List Char) : Except Failure (List Char) :=
  match s with
  | 'e' :: rest => skipPower rest
  | 'E' :: rest => skipPower rest
  | s => .ok s

/-- Skips the fraction and the power of ten of a number. -/
def skipAfterWhole (s : List Char) : Except Failure (List Char) :=
  match s with
  | '.' :: rest =>
      match rest with
      | [] => failHere .invalidNumber []
      | c :: more =>
          if c.isDigit then skipPower? (more.dropWhile Char.isDigit)
          else failNext .invalidNumber rest
  | s => skipPower? s

/-- Skips a number after its sign. -/
def skipNumber (s : List Char) : Except Failure (List Char) :=
  match s with
  | [] => failHere .invalidNumber []
  | '0' :: rest =>
      match rest with
      | c :: _ => if c.isDigit then failNext .invalidNumber rest else skipAfterWhole rest
      | [] => .ok []
  | c :: rest =>
      if c.isDigit then skipAfterWhole (rest.dropWhile Char.isDigit)
      else failNext .invalidNumber (c :: rest)

mutual

/-- Skips a value; `fuel` bounds the steps. -/
def skipValueFrom : Nat → List Char → Except Failure (List Char)
  | 0, s => failHere .tooDeep s
  | fuel + 1, s =>
      match skipBlanks s with
      | [] => failHere .endInValue []
      | c :: rest =>
          if c = 'n' then readWord ['u', 'l', 'l'] rest
          else if c = 't' then readWord ['r', 'u', 'e'] rest
          else if c = 'f' then readWord ['a', 'l', 's', 'e'] rest
          else if c = '-' then skipNumber rest
          else if c.isDigit then skipNumber (c :: rest)
          else if c = '"' then skipString rest
          else if c = '[' then skipItemsFrom true fuel rest
          else if c = '{' then skipMembersFrom true fuel rest
          else failNext .expectedValue (c :: rest)

/-- Skips the elements of an array and its closing bracket. -/
def skipItemsFrom (first : Bool) : Nat → List Char → Except Failure (List Char)
  | 0, s => failHere .tooDeep s
  | fuel + 1, s => do
      let (c, rest) ← demand .endInList s
      if c = ']' then return rest
      else if first then
        let rest ← skipValueFrom fuel (c :: rest)
        skipItemsFrom false fuel rest
      else if c = ',' then
        let rest ← skipValueFrom fuel rest
        skipItemsFrom false fuel rest
      else failNext .expectedListEnd (c :: rest)

/-- Skips the members of an object and its closing brace. -/
def skipMembersFrom (first : Bool) : Nat → List Char → Except Failure (List Char)
  | 0, s => failHere .tooDeep s
  | fuel + 1, s => do
      let (c, rest) ← demand .endInObject s
      if c = '}' then return rest
      else if first then
        if c = '"' then
          let rest ← skipString rest
          let rest ← readColon rest
          let rest ← skipValueFrom fuel rest
          skipMembersFrom false fuel rest
        else failNext .keyNotString (c :: rest)
      else if c = ',' then
        let (d, rest) ← demand .endInObject rest
        if d = '"' then
          let rest ← skipString rest
          let rest ← readColon rest
          let rest ← skipValueFrom fuel rest
          skipMembersFrom false fuel rest
        else failNext .keyNotString (d :: rest)
      else failNext .expectedObjectEnd (c :: rest)

end

def skipValue (s : List Char) : Except Failure (List Char) := skipValueFrom (stepsFor s) s

end CodeBlock.Json
