import CodeBlock.Snippet.Pattern
import CodeBlock.Snippet.Token
import CodeBlock.Snippet.Blank

set_option autoImplicit false

/-! # How tokens are written

Each token that is a text of its own has a pattern. A token may have blanks before it unless it is
**attached**, as the insides of a string are. Which tokens are looked for at a place depends on the
state of reading: there is a small number of **contexts**, and the first one is taken that has all
tokens which the state expects, and no other token that would **crowd** one of them, that is take a
text away from it. -/

namespace CodeBlock.Snippet

/-- How a token is written. -/
structure Spelling where
  pattern : Pattern
  /-- Whether no blank may come before. -/
  attached : Bool
  /-- The tokens of greater weight hold their own against those that are longer. -/
  weight : Int

namespace Spelling

open Pattern

/-- A character other than NUL that passes a test. -/
def except (test : Char → Bool) : Pattern := one fun c => c != '\x00' && !test c

/-- One of some characters. -/
def among (cs : List Char) : Pattern := one cs.contains

def digit : Pattern := one Char.isDigit

def hexDigit : Pattern :=
  one fun c => c.isDigit || ('a' ≤ c && c ≤ 'f') || ('A' ≤ c && c ≤ 'F')

def octalDigit : Pattern := one fun c => '0' ≤ c && c ≤ '7'

def binaryDigit : Pattern := one fun c => c == '0' || c == '1'

/-- Digits of a kind with a low line between any two of them at most. -/
def digits (kind : Pattern) : Pattern :=
  both kind (many (both (opt (one (· == '_'))) kind))

/-- A number that starts with a nought and a letter, large or small. -/
def prefixed (letter : Char) (kind : Pattern) : Pattern :=
  all [one (· == '0'), among [letter, letter.toUpper], digits kind]

/-- Numbers: with a point, an exponent, in another base, or whole ones of any size. -/
def numberPattern : Pattern :=
  let decimal := digits digit
  let exponent := all [among ['e', 'E'], opt (among ['-', '+']), decimal]
  let whole := any [
    one (· == '0'),
    all [opt (one (· == '0')), one (fun c => '1' ≤ c && c ≤ '9'),
      opt (both (opt (one (· == '_'))) decimal)]]
  let point := one (· == '.')
  let hex := prefixed 'x' hexDigit
  let binary := prefixed 'b' binaryDigit
  let octal := prefixed 'o' octalDigit
  any [
    hex,
    all [whole, point, opt decimal, opt exponent], all [point, decimal, opt exponent],
    both whole exponent, decimal,
    binary, octal,
    both (any [hex, binary, octal, decimal]) (one (· == 'n'))]

def signs : List Char :=
  [':', ';', '\x60', '"', '\x27', '@', '#', '.', ',', '|', '^', '&', '<', '=', '>', '+', '-', '*',
    '/', '\\', '%', '?', '!', '~', '(', ')', '[', ']', '\x7b', '\x7d']

def endsName (c : Char) : Bool := c.toNat < 32 || signs.contains c || isBlank c

/-- A character written by its number. -/
def numbered : Pattern :=
  both (text "\\u".toList)
    (either (times 4 hexDigit)
      (all [one (· == '\x7b'), some hexDigit, one (· == '\x7d')]))

def namePattern : Pattern :=
  both (either (except fun c => endsName c || c.isDigit) numbered)
    (many (either (except endsName) numbered))

/-- Comments up to the end of the line, or between two signs. -/
def commentPattern : Pattern :=
  let star := one (· == '*')
  both (one (· == '/')) (either
    (both (one (· == '/')) (many (except isLineEnd)))
    (all [star, many (except (· == '*')), some star,
      many (all [except (fun c => c == '/' || c == '*'), many (except (· == '*')), some star]),
      one (· == '/')]))

/-- What stands for another character in a string. -/
def escapePattern : Pattern :=
  both (one (· == '\\')) (any [
    except (fun c => c == 'x' || c == 'u' || ('0' ≤ c && c ≤ '7')),
    both octalDigit (opt (both octalDigit (opt octalDigit))),
    both (one (· == 'x')) (times 2 hexDigit),
    both (one (· == 'u')) (times 4 hexDigit),
    all [one (· == 'u'), one (· == '\x7b'), some hexDigit, one (· == '\x7d')],
    both (among ['\r', '?']) (among ['\n', '\u2028', '\u2029'])])

/-- What stands between the slashes of a regular expression. -/
def regexPattern : Pattern :=
  let escaped := both (one (· == '\\')) (except (· == '\n'))
  some (any [
    all [one (· == '['), many (either escaped (except fun c => c == ']' || c == '\n' || c == '\\')),
      one (· == ']')],
    escaped,
    except fun c => c == '/' || c == '\\' || c == '[' || c == '\n'])

/-- What a string holds between escapes. -/
def stringText (quote : Char) : Pattern :=
  some (except fun c => c == quote || c == '\\' || c == '\r' || c == '\n')

/-- How a token is written, if it is a text of its own. -/
def ofToken : Token → Option Spelling
  | .name => Option.some ⟨namePattern, false, 0⟩
  | .launcher =>
      Option.some ⟨both (text "#!".toList) (many (except (· == '\n'))), false, 0⟩
  | .fixed s => if (Token.fixed s).isWord then none else Option.some ⟨text s.toList, false, 0⟩
  | .doubleText => Option.some ⟨stringText '"', true, 1⟩
  | .singleText => Option.some ⟨stringText '\x27', true, 1⟩
  | .escape => Option.some ⟨escapePattern, true, 0⟩
  | .comment => Option.some ⟨commentPattern, false, 0⟩
  | .regexEnd => Option.some ⟨one (· == '/'), true, 1⟩
  | .regexBody => Option.some ⟨regexPattern, true, -1⟩
  | .regexFlags => Option.some ⟨some (one fun c => 'a' ≤ c && c ≤ 'z'), true, 0⟩
  | .number => Option.some ⟨numberPattern, false, 0⟩
  | .privateName => Option.some ⟨both (one (· == '#')) namePattern, false, 0⟩
  | _ => none

/-- Whether a token is preferred to others of its weight and length as it has a fixed text. -/
def isFixed : Token → Bool
  | .fixed _ | .regexEnd => true
  | _ => false

def preference (t : Token) : Nat :=
  (if isFixed t then 2 else 0) + (if ((ofToken t).map Spelling.attached).getD false then 1 else 0)

end Spelling

/-! ## Contexts -/

/-- The tokens that are looked for together, and whether the end of the text is one of them. -/
structure Context where
  tokens : TokenSet
  mayFinish : Bool
  deriving Repr

namespace Lexicon

/-- The places of the tokens that are looked for as texts; words are looked for as names. -/
def written : TokenSet := .ofList (Token.all.filter fun t => (Spelling.ofToken t).isSome)

/-- All tokens but some. -/
def allBut (ts : List Token) : TokenSet := written.without (.ofList ts)

/-- Tokens with a fixed text. -/
def signs (texts : List String) : List Token := texts.map .fixed

/-- The insides of strings and of regular expressions. -/
def insides : List Token := [.doubleText, .singleText, .regexBody, .regexFlags]

/-- The signs of assignments that change a value. -/
def assignments : List String :=
  ["+=", "-=", "*=", "/=", "%=", "^=", "&=", "|=", ">>=", ">>>=", "<<=", "**=", "&&=", "||=", "??="]

/-- The signs of annotations of what an index may be. -/
def optionalMarks : List String := ["-?:", "+?:", "?:"]

/-- What a statement does not begin with and an operator is not. -/
def inner : List Token :=
  [.launcher, .escape, .fixed "$\x7b", .regexEnd, .doubleText, .singleText, .regexBody]

/-- The context where nothing can be read as the grammar wants it. -/
def strayContext : Context := ⟨allBut (insides ++ signs ["?:"]), true⟩

/-- The contexts in the order in which they are tried. -/
def contexts : List Context :=
  let primary :=
    signs ["*", "\x7b", ",", "(", "[", "+", "-", "<", "\"", "\x27"] ++ [.name, .number, .comment]
  let larger := primary ++ signs ["]", "...", "&", "|", "\x60", "?"]
  let full := larger ++ signs ["!", "/", "~", "++", "--", ".", "@", ")"] ++ [.privateName]
  [⟨.ofList (full ++ [.launcher] ++ signs [";", "\x7d", "|\x7d", ">", ":", "=>", "="]), true⟩,
    ⟨allBut (.regexFlags :: inner ++ signs optionalMarks), false⟩,
    ⟨.ofList (full ++ signs ["\x7b|"]), false⟩,
    ⟨allBut (.regexFlags :: inner ++ signs (optionalMarks ++ ["\x7b|", "|\x7d"])), false⟩,
    ⟨allBut (.regexFlags :: inner ++
      signs (assignments ++ optionalMarks ++ ["=>", "...", "\x7b|"])), true⟩,
    ⟨.ofList (larger ++ signs ["\x7b|", ">", "\x7d", ";", "@", "|\x7d"] ++ [.privateName]), false⟩,
    ⟨.ofList (full ++ signs ["?.", ">", "=>", "=", "\x7d", ":", ";", "|\x7d"]), false⟩,
    ⟨.ofList (primary ++ signs ["\x7d", ";", "...", "@", "|\x7d"] ++ [.privateName]), false⟩,
    ⟨allBut (inner ++ [.number, .privateName] ++
      signs (assignments ++ optionalMarks ++
        ["=>", "...", "\x7b|", "|\x7d", "=", "~", "\"", "\x27", "@", "?"])), false⟩,
    ⟨.ofList ([.escape, .comment] ++ signs (["\x60", "$\x7b", ":"] ++ optionalMarks)), false⟩,
    ⟨.ofList ([.doubleText, .escape, .comment] ++ signs ["\""]), false⟩,
    ⟨.ofList ([.singleText, .escape, .comment] ++ signs ["\x27"]), false⟩,
    ⟨.ofList [.regexBody, .comment], false⟩,
    ⟨.ofList [.regexEnd, .comment], false⟩]

/-- Which tokens would take a text away from which. -/
def crowding : List (List Token × List Token) :=
  [(signs ["?.", "??=", "??", "?:"], signs ["?"]),
    (signs ["*=", "**=", "**"], signs ["*"]),
    (signs ["/="], .regexEnd :: signs ["/"]),
    (signs ["/"], [.regexEnd]),
    (signs [">>=", ">>>=", ">>", ">>>", ">="], signs [">"]),
    (signs ["<<=", "<<"], signs ["<"]),
    (signs ["&&=", "&&"], signs ["&"]),
    (signs ["||=", "||"], signs ["|"]),
    (signs ["+"], signs ["+?:"]),
    (signs ["-"], signs ["-?:"]),
    (signs ["++", "+?:"], signs ["+"]),
    (signs ["--", "-?:"], signs ["-"]),
    (signs ["!=", "!=="], signs ["!"]),
    (signs ["?"], signs ["?:"]),
    (signs ["\x7b|"], signs ["\x7b"]),
    ([.escape, .regexFlags] ++ signs ["$\x7b"], [.name]),
    ([.regexEnd], .comment :: signs ["/", "/="]),
    ([.comment], .regexEnd :: signs ["/"]),
    ([.name], [.escape, .regexFlags] ++ signs ["$\x7b"])]

def crowdingSets : List (TokenSet × TokenSet) :=
  crowding.map fun (a, b) => (TokenSet.ofList a, TokenSet.ofList b)

end Lexicon

end CodeBlock.Snippet
