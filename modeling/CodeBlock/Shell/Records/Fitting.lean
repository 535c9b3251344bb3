import CodeBlock.Regex.Reader
import CodeBlock.Regex.Basic

set_option autoImplicit false

/-! # Expressions that are fitted to records

In scripts over records, expressions are written in the extended way, with characters behind a backslash
as in text constants; a backslash takes the meaning from other characters, also between brackets. -/

namespace CodeBlock.Shell.Records

/-- How expressions that are fitted are written, once characters with a code are replaced. -/
def style : Regex.Style := {
  Regex.Style.extended with
  looseBraces := true, looseClosing := true, controls := false, bracketEscapes := true
  references := false }

/-- The character that stands behind a backslash as a letter or a code, and what follows. -/
def namedChar? : List Char → Option (Char × List Char)
  | 'a' :: rest => some ('\x07', rest)
  | 'b' :: rest => some ('\x08', rest)
  | 'f' :: rest => some ('\x0c', rest)
  | 'n' :: rest => some ('\n', rest)
  | 'r' :: rest => some ('\r', rest)
  | 't' :: rest => some ('\t', rest)
  | 'v' :: rest => some ('\x0b', rest)
  | 'x' :: rest => Regex.codedChar? 16 2 rest
  | rest => Regex.codedChar? 8 3 rest

/-- A text with the characters that are named behind a backslash; all others keep their backslash. -/
def withNamedChars : Nat → List Char → List Char
  | 0, s => s
  | _ + 1, [] => []
  | _ + 1, ['\\'] => ['\\', '\\']
  | fuel + 1, '\\' :: rest =>
      match namedChar? rest, rest with
      | some (c, rest), _ =>
          if c.isAlphanum || c == '\n' || c == '\t' then c :: withNamedChars fuel rest
          else '\\' :: c :: withNamedChars fuel rest
      | none, c :: rest => '\\' :: c :: withNamedChars fuel rest
      | none, [] => ['\\']
  | fuel + 1, c :: rest => c :: withNamedChars fuel rest

/-- The expression that a text is. -/
def regexOf (s : List Char) : Except Regex.Failure Regex :=
  Regex.ofText style (withNamedChars (s.length + 1) s)

/-- The wording of the complaint about a text that is no expression. -/
def failureText (e : Regex.Failure) (s : List Char) : List Char :=
  let reason := match e with
    | .unclosedGroup => "missing ')'"
    | .unopenedGroup => "missing '('"
    | .nothingToRepeat => "missing operand"
    | .badCount => "bad interval expression"
    | .unclosedSet => "bad class -- [], [^] or ["
    | .unknownClass => "bad class -- [], [^] or ["
    | .disorderedRange => "bad class -- [], [^] or ["
    | _ => "resource exhaustion -- regular expression too large"
  ("regular expression compile failed (" ++ reason ++ ")\n").toList ++ s

/-- The characters of a text constant: escapes are replaced, and a backslash before another character
    stays. -/
def unescapeText : Nat → List Char → List Char
  | 0, s => s
  | _ + 1, [] => []
  | fuel + 1, '\\' :: rest =>
      match namedChar? rest, rest with
      | some (c, rest), _ => c :: unescapeText fuel rest
      | none, '"' :: rest => '"' :: unescapeText fuel rest
      | none, '\\' :: rest => '\\' :: unescapeText fuel rest
      | none, '\n' :: rest => unescapeText fuel rest
      | none, c :: rest => '\\' :: c :: unescapeText fuel rest
      | none, [] => ['\\']
  | fuel + 1, c :: rest => c :: unescapeText fuel rest

end CodeBlock.Shell.Records
