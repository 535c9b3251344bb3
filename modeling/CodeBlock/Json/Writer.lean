import CodeBlock.Json.Basic
import CodeBlock.Number.Style

set_option autoImplicit false

/-! # Writing JSON

Two layouts of one value: the compact one without any blanks, and the indented one with one element
to a line and two more spaces at each level, where an empty array or object stays on its line.
Strings are written with the fewest escapes: the quote, the backslash and the control characters,
and all else as it is. -/

namespace CodeBlock.Json

/-- Numbers with a fraction keep a point; powers of ten begin below a hundred-thousandth and at ten
    million billions, and have a sign. -/
def numberStyle : NumberStyle := ⟨.even, true, some (-5, 16)⟩

/-- One of the sixteen digits, in small letters. -/
def hexDigit (n : Nat) : Char := Nat.digitChar (n % 16)

/-- A character inside a string. -/
def escapeChar (c : Char) : List Char :=
  match c with
  | '"' => ['\\', '"']
  | '\\' => ['\\', '\\']
  | '\x08' => ['\\', 'b']
  | '\x0c' => ['\\', 'f']
  | '\n' => ['\\', 'n']
  | '\r' => ['\\', 'r']
  | '\t' => ['\\', 't']
  | c =>
      if c.toNat < 0x20 then ['\\', 'u', '0', '0', hexDigit (c.toNat / 16), hexDigit c.toNat]
      else [c]

def quoted (s : List Char) : List Char := '"' :: s.flatMap escapeChar ++ ['"']

/-- A whole number in decimal digits. -/
def integerText (i : Int) : List Char :=
  (if i < 0 then ['-'] else []) ++ Nat.toDigits 10 i.natAbs

/-- A finite number with a fraction part or a power of ten. -/
def floatText (x : Binary64.Finite) : List Char :=
  numberStyle.write (x.shortest numberStyle.tie)

mutual

/-- The compact text of a value. -/
def compactText : Json → List Char
  | .null => ['n', 'u', 'l', 'l']
  | .bool true => ['t', 'r', 'u', 'e']
  | .bool false => ['f', 'a', 'l', 's', 'e']
  | .integer i => integerText i
  | .float x => floatText x
  | .string s => quoted s.toList
  | .array items => '[' :: compactItems true items ++ [']']
  | .object members => '{' :: compactMembers true members ++ ['}']

/-- The elements of an array, with commas between them; `first` says that none came before. -/
def compactItems (first : Bool) : List Json → List Char
  | [] => []
  | item :: rest => (if first then [] else [',']) ++ compactText item ++ compactItems false rest

/-- The members of an object, with commas between them. -/
def compactMembers (first : Bool) : List (String × Json) → List Char
  | [] => []
  | (key, value) :: rest =>
      (if first then [] else [',']) ++ quoted key.toList ++ ':' :: compactText value ++
        compactMembers false rest

end

def newLine (level : Nat) : List Char := '\n' :: List.replicate (2 * level) ' '

mutual

/-- The indented text of a value that stands at a level. -/
def indentedText (level : Nat) : Json → List Char
  | .null => compactText .null
  | .bool b => compactText (.bool b)
  | .integer i => compactText (.integer i)
  | .float x => compactText (.float x)
  | .string s => compactText (.string s)
  | .array [] => ['[', ']']
  | .array (item :: items) =>
      '[' :: indentedItems (level + 1) true (item :: items) ++ newLine level ++ [']']
  | .object [] => ['{', '}']
  | .object (member :: members) =>
      '{' :: indentedMembers (level + 1) true (member :: members) ++ newLine level ++ ['}']

/-- The elements of an array, each on a line of its own. -/
def indentedItems (level : Nat) (first : Bool) : List Json → List Char
  | [] => []
  | item :: rest =>
      (if first then [] else [',']) ++ newLine level ++ indentedText level item ++
        indentedItems level false rest

/-- The members of an object, each on a line of its own. -/
def indentedMembers (level : Nat) (first : Bool) : List (String × Json) → List Char
  | [] => []
  | (key, value) :: rest =>
      (if first then [] else [',']) ++ newLine level ++ quoted key.toList ++ ':' :: ' ' ::
        indentedText level value ++ indentedMembers level false rest

end

def compact (j : Json) : String := String.ofList (compactText j)

/-- The indented text of a value. -/
def pretty (j : Json) : String := String.ofList (indentedText 0 j)

end CodeBlock.Json
