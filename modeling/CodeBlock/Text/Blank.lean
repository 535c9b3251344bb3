set_option autoImplicit false

/-! # Blank characters and trimming

A character is **blank** when it has the property White_Space of the Unicode standard. Trimming
takes blanks away at the ends of a text and nowhere else: what is left neither starts nor ends with
one. -/

namespace CodeBlock.Text

/-- Whether `c` is blank: tabs and line ends, the space, and the spaces of typography. -/
def isBlank (c : Char) : Bool :=
  let n := c.toNat
  (decide (0x9 ≤ n) && decide (n ≤ 0xD)) || n == 0x20 || n == 0x85 || n == 0xA0 || n == 0x1680 ||
    (decide (0x2000 ≤ n) && decide (n ≤ 0x200A)) || n == 0x2028 || n == 0x2029 || n == 0x202F ||
    n == 0x205F || n == 0x3000

/-- The text without its leading blanks. -/
def trimStart (s : List Char) : List Char := s.dropWhile isBlank

/-- The text without its trailing blanks. -/
def trimEnd (s : List Char) : List Char := (s.reverse.dropWhile isBlank).reverse

/-- The text without the blanks at its two ends. -/
def trim (s : List Char) : List Char := trimEnd (trimStart s)

/-- The text without the run of `c` at its end. -/
def trimEndOf (c : Char) (s : List Char) : List Char := (s.reverse.dropWhile (· == c)).reverse

end CodeBlock.Text
