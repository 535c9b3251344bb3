set_option autoImplicit false

/-! # Bytes as text

A text is stored as bytes in UTF-8. Not all bytes are text: a character has one form only, the
shortest, and the codes of surrogates have none. Reading is either strict, and then bytes that are no
text are refused, or lenient, and then each run of bytes that starts a character but does not finish
it, and each byte that starts none, is read as the replacement character. -/

namespace CodeBlock.Text

def toBytes (s : List Char) : List UInt8 := s.flatMap String.utf8EncodeChar

/-- What stands for bytes that are no text. -/
def replacement : Char := '\uFFFD'

/-- Reads the `count` bytes that are still to come of a character, the next one between `low` and
    `high`, and gives back the text after the bytes that fit. -/
def readContinuation (code : Nat) (low high : UInt8) : Nat → List UInt8 → Option Char × List UInt8
  | 0, rest => (some (Char.ofNat code), rest)
  | _ + 1, [] => (none, [])
  | count + 1, b :: rest =>
      if low ≤ b ∧ b ≤ high then
        readContinuation (code * 64 + (b.toNat - 0x80)) 0x80 0xBF count rest
      else (none, b :: rest)

/-- Reads a character after its first byte. The limits on the second byte leave out forms that are
    too long, surrogates, and codes that are too large. -/
def readCharacter (b : UInt8) (rest : List UInt8) : Option Char × List UInt8 :=
  if b < 0x80 then (some (Char.ofNat b.toNat), rest)
  else if b < 0xC2 then (none, rest)
  else if b < 0xE0 then readContinuation (b.toNat - 0xC0) 0x80 0xBF 1 rest
  else if b < 0xF0 then
    readContinuation (b.toNat - 0xE0) (if b = 0xE0 then 0xA0 else 0x80)
      (if b = 0xED then 0x9F else 0xBF) 2 rest
  else if b < 0xF5 then
    readContinuation (b.toNat - 0xF0) (if b = 0xF0 then 0x90 else 0x80)
      (if b = 0xF4 then 0x8F else 0xBF) 3 rest
  else (none, rest)

/-- The characters that the bytes give, nothing for those that are no text; `fuel` bounds their
    number. -/
def readCharacters : Nat → List UInt8 → List (Option Char)
  | 0, _ => []
  | _ + 1, [] => []
  | fuel + 1, b :: rest =>
      let (c, rest) := readCharacter b rest
      c :: readCharacters fuel rest

def ofBytes? (bytes : List UInt8) : Option (List Char) :=
  (readCharacters bytes.length bytes).mapM id

/-- The text that the bytes are, with replacement characters for what is no text. -/
def ofBytesLenient (bytes : List UInt8) : List Char :=
  (readCharacters bytes.length bytes).map (·.getD replacement)

end CodeBlock.Text
