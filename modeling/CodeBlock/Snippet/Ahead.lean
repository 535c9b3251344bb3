import CodeBlock.Snippet.Blank
import CodeBlock.Snippet.Token

set_option autoImplicit false

/-! # Tokens that depend on what comes after them

Some tokens cannot be told by their own text. A statement ends by itself where the snippet or a block
does, and before a line end that is not followed by something that goes on with it. A question mark
belongs to a condition unless what follows shows that it marks something as optional. The text of a
template goes on up to the next escape, substitution or end. For all of these NUL is where the text
ends. -/

namespace CodeBlock.Snippet.Ahead

/-! ## Where a statement ends by itself -/

/-- Where a reader of blanks and comments stands. -/
inductive SkipState where
  | between
  /-- In a line comment. -/
  | line
  /-- At the star that opens a block comment. -/
  | opening
  | block
  /-- In a block comment after a star. -/
  | star
  deriving DecidableEq, Repr

/-- The text after the blanks and comments that come next, and whether there was a comment; none if
    there is a slash that begins none. -/
def afterComments? : SkipState → Bool → List Char → Option (List Char × Bool)
  | _, seen, [] => some ([], seen)
  | .between, seen, c :: rest =>
      if isPlainBlank c then afterComments? .between seen rest
      else if c == '/' then
        match rest with
        | '/' :: _ => afterComments? .line true rest
        | '*' :: _ => afterComments? .opening seen rest
        | _ => none
      else some (c :: rest, seen)
  | .line, seen, c :: rest =>
      if c == '\n' then afterComments? .between seen rest
      else if c == '\x00' then some (c :: rest, seen)
      else afterComments? .line seen rest
  | .opening, seen, _ :: rest => afterComments? .block seen rest
  | .block, seen, c :: rest =>
      if c == '\x00' then some (c :: rest, seen)
      else afterComments? (if c == '*' then .star else .block) seen rest
  | .star, seen, c :: rest =>
      if c == '/' then afterComments? .between true rest
      else if c == '\x00' then some (c :: rest, seen)
      else afterComments? (if c == '*' then .star else .block) seen rest

/-- Whether a text begins with a word that no letter makes longer. -/
def beginsWithWord (word s : List Char) : Bool :=
  word.isPrefixOf s &&
    match s.drop word.length with
    | [] => true
    | c :: _ => !c.isAlpha

/-- What a statement goes on with in a line that starts with a text, after the sign or word that shows
    it; none if the statement may end before the line. `operand` says that an operator could come
    next, which a bracket would be, and `signature` that a body could. -/
def goesOnInLine? (operand signature : Bool) : List Char → Option (List Char)
  | [] => none
  | c :: rest =>
      let stays (b : Bool) (s : List Char) : Option (List Char) := if b then some s else none
      if ['\x60', ',', '.', ';', '*', '%', '>', '<', '=', '?', '^', '|', '&', '/', ':'].contains c
      then some (c :: rest)
      else if c == '\x7b' then stays signature (c :: rest)
      else if c == '(' || c == '[' then stays operand (c :: rest)
      else if c == '+' || c == '-' then stays (rest.head? != some c) rest
      else if c == '!' then stays (rest.head? == some '=') rest
      else if beginsWithWord "in".toList (c :: rest) then some (rest.drop 1)
      else if beginsWithWord "instanceof".toList (c :: rest) then some (rest.drop 9)
      else none

/-- What is found when the end of a statement is looked for. -/
inductive EndingSearch where
  | ends
  /-- The statement goes on with a text, and no comment comes before it. -/
  | goesOn (rest : List Char)
  | goesOnLater
  deriving DecidableEq, Repr

/-- Looks for the end of a statement. -/
def searchEnding (operand signature : Bool) : List Char → EndingSearch
  | [] => .ends
  | c :: rest =>
      if c == '\x00' then .ends
      else if c == '\x7d' then
        match rest.dropWhile isPlainBlank with
        | ':' :: _ => if operand then .ends else .goesOnLater
        | _ => .ends
      else if c == '\n' then
        match afterComments? .between false rest with
        | none => .goesOnLater
        | some (s, seen) =>
            match goesOnInLine? operand signature s with
            | none => .ends
            | some further => if seen then .goesOnLater else .goesOn further
      else if isPlainBlank c then searchEnding operand signature rest
      else .goesOn (c :: rest)

/-! ## The mark of a condition -/

/-- Whether a text starts with the question mark of a condition. -/
def isConditionMark : List Char → Bool
  | '?' :: '?' :: _ => false
  | '?' :: '.' :: _ => false
  | '?' :: rest =>
      match rest.dropWhile isPlainBlank with
      | ':' :: _ | ')' :: _ | ',' :: _ => false
      | '.' :: c :: _ => c.isDigit
      | ['.'] => false
      | _ => true
  | _ => false

/-! ## The text of a template -/

/-- How many characters of a template come before the next escape, substitution or end. -/
def templateLength? : List Char → Option Nat
  | [] => none
  | '$' :: '\x7b' :: _ => some 0
  | c :: rest =>
      if c == '\x00' then none
      else if c == '\x60' || c == '\\' then some 0
      else (templateLength? rest).map (· + 1)

/-! ## Comments of markup -/

/-- How many characters a comment of markup has that a text starts with. -/
def markupLength? (s : List Char) : Option Nat :=
  if "<!--".toList.isPrefixOf s || "-->".toList.isPrefixOf s then
    some ((s.takeWhile fun c =>
      c != '\x00' && c != '\n' && c != '\u2028' && c != '\u2029').length)
  else none

/-! ## All of them -/

/-- A token that has been found: how many blanks come before it, and how long it is. -/
structure Found where
  token : Token
  skipped : Nat
  length : Nat
  deriving DecidableEq, Repr

/-- The token that comes next where some are expected, if it is one of those that depend on what
    comes after them. -/
def find? (isExpected : Token → Bool) (s : List Char) : Option Found :=
  if isExpected .templateText then
    if isExpected .ending then none
    else
      match templateLength? s with
      | some (n + 1) => some ⟨.templateText, 0, n + 1⟩
      | _ => none
  else if isExpected .ending || isExpected .signatureEnding then
    match searchEnding (isExpected (.fixed "||")) (isExpected .signatureEnding) s with
    | .ends => some ⟨.ending, 0, 0⟩
    | .goesOn rest =>
        if isExpected .conditionMark && isConditionMark rest then
          some ⟨.conditionMark, s.length - rest.length, 1⟩
        else none
    | .goesOnLater => none
  else if isExpected .conditionMark then
    let rest := s.dropWhile isPlainBlank
    if isConditionMark rest then some ⟨.conditionMark, s.length - rest.length, 1⟩ else none
  else if isExpected .markup && !isExpected (.fixed "||") && !isExpected .escape &&
      !isExpected .regexBody then
    let blanks := s.takeWhile fun c => isPlainBlank c || c == '\u2028' || c == '\u2029'
    (markupLength? (s.drop blanks.length)).map fun n => ⟨.markup, blanks.length, n⟩
  else none

end CodeBlock.Snippet.Ahead
