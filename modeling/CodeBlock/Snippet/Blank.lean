import CodeBlock.Text.Blank

set_option autoImplicit false

/-! # Blanks of a snippet

Between any two tokens of a snippet there may be blanks. Where a statement ends by itself only the
plain ones among them count. -/

namespace CodeBlock.Snippet

/-- The blanks that count where a statement ends. -/
def isPlainBlank (c : Char) : Bool :=
  c == ' ' || c == '\t' || c == '\n' || c == '\x0b' || c == '\x0c' || c == '\r'

/-- The blanks of a snippet: the usual ones but the control character for a new line, and three
    characters without width. -/
def isBlank (c : Char) : Bool :=
  (Text.isBlank c && c != '\u0085') || c == '\uFEFF' || c == '\u2060' || c == '\u200B'

/-- Whether a line comment ends before `c`. -/
def isLineEnd (c : Char) : Bool := c == '\n' || c == '\r' || c == '\u2028' || c == '\u2029'

end CodeBlock.Snippet
