set_option autoImplicit false

/-! # Tokens

The tokens of a snippet. Most are a **fixed** text, a sign or a word; the others are a class of texts,
or have no text of their own: the **ending** of a statement stands where one may end by itself. The
tokens stand in one order, in which the earlier one is preferred where the same text could be two of
them, and by their place in it sets of tokens are numbers. -/

namespace CodeBlock.Snippet

/-- What a text is cut into. -/
inductive Token where
  /-- The end of the text. -/
  | finish
  | name
  /-- The line at the very start that says what runs the snippet as a file. -/
  | launcher
  /-- A sign or a word. -/
  | fixed (text : String)
  /-- What a text in double quotes holds between its escapes. -/
  | doubleText
  /-- What a text in single quotes holds between its escapes. -/
  | singleText
  | escape
  | comment
  /-- The slash that closes a regular expression. -/
  | regexEnd
  | regexBody
  | regexFlags
  | number
  /-- A name after a number sign. -/
  | privateName
  /-- The place at which a statement ends by itself. -/
  | ending
  /-- What a template holds between its escapes and substitutions. -/
  | templateText
  /-- The question mark of a condition with two values. -/
  | conditionMark
  /-- A comment as a page of markup has it. -/
  | markup
  /-- The place at which a signature ends by itself. -/
  | signatureEnding
  deriving DecidableEq, Repr

namespace Token

/-- The tokens in their order. -/
def all : List Token :=
  [.finish, .name, .launcher] ++
  (["export", "*", "default", "type", "import", "=", "as", "namespace", "\x7b", ",", "\x7d",
    "typeof", "from", "with", "assert", "var", "let", "const", "!", "else", "if", "switch", "for",
    "(", ";", ")", "await", "in", "of", "while", "do", "try", "break", "continue", "debugger",
    "return", "throw", ":", "case", "catch", "finally", "yield", "[", "]", "class", "async",
    "function", "=>", "?.", "new", ".", "using", "+=", "-=", "*=", "/=", "%=", "^=", "&=", "|=",
    ">>=", ">>>=", "<<=", "**=", "&&=", "||=", "??=", "...", "&&", "||", ">>", ">>>", "<<", "&",
    "^", "|", "+", "-", "/", "%", "**", "<", "<=", "==", "===", "!=", "!==", ">=", ">", "??",
    "instanceof", "~", "void", "delete", "++", "--", "\"", "'"].map .fixed) ++
  [.doubleText, .singleText, .escape, .comment, .fixed "\x60", .fixed "$\x7b", .regexEnd,
    .regexBody, .regexFlags, .number, .privateName] ++
  (["target", "meta", "this", "super", "true", "false", "null", "undefined", "@", "static",
    "readonly", "get", "set", "?", "declare", "public", "private", "protected", "override",
    "module", "any", "number", "boolean", "string", "symbol", "object", "abstract", "accessor",
    "satisfies", "require", "extends", "implements", "global", "interface", "enum", "-?:", "+?:",
    "?:", "asserts", "infer", "is", "keyof", "unique", "unknown", "never", "\x7b|",
    "|\x7d"].map .fixed) ++
  [.ending, .templateText, .conditionMark, .markup, .signatureEnding]

/-- The place of a token in the order. -/
def index (t : Token) : Nat := all.findIdx (· = t)

/-- How many tokens there are. -/
def count : Nat := all.length

/-- Whether a token is a word: a fixed text that could also be a name. -/
def isWord : Token → Bool
  | fixed text => text.toList.all Char.isAlpha
  | _ => false

/-- Whether a token is a part of the tree of a snippet. -/
def isVisible : Token → Bool
  | finish | ending | signatureEnding => false
  | _ => true

/-- Whether a token counts as a part with a name of its own. -/
def isNamed : Token → Bool
  | fixed text => ["this", "super", "true", "false", "null", "undefined"].contains text
  | regexEnd | conditionMark => false
  | t => t.isVisible

end Token

/-! ## Sets of tokens -/

/-- A set of tokens: the bit at the place of each of its members is set. -/
abbrev TokenSet := Nat

namespace TokenSet

/-- The set with no member. -/
def empty : TokenSet := (0 : Nat)

/-- The set of one token, given by its place. -/
def single (t : Nat) : TokenSet := (1 : Nat) <<< t

/-- Whether the token at the place `t` is a member. -/
def has (s : TokenSet) (t : Nat) : Bool := Nat.testBit s t

/-- All that is in one of two sets. -/
def union (s t : TokenSet) : TokenSet := Nat.lor s t

/-- What two sets share. -/
def inter (s t : TokenSet) : TokenSet := Nat.land s t

/-- Whether there is no member. -/
def isEmpty (s : TokenSet) : Bool := s == 0

/-- The set of some tokens. -/
def ofList (ts : List Token) : TokenSet := ts.foldl (fun s t => s.union (single t.index)) empty

/-- What is in a set and not in another one. -/
def without (s t : TokenSet) : TokenSet := Nat.xor s (Nat.land s t)

/-- Whether every member is in another set. -/
def isSubset (s t : TokenSet) : Bool := (s.without t).isEmpty

/-- The places of the members. -/
def toList (s : TokenSet) : List Nat := (List.range Token.count).filter s.has

end TokenSet

end CodeBlock.Snippet
