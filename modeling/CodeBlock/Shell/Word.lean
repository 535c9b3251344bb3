import CodeBlock.Shell.Command

set_option autoImplicit false

/-! # Characters and words of the shell

Which characters make names, where a quoted text ends, and what a word is that holds nothing but
characters. -/

namespace CodeBlock.Shell

/-! ## Characters -/

/-- The characters between which a word ends unless they are quoted. -/
def endsWord (c : Char) : Bool :=
  c == ' ' || c == '\t' || c == '\n' || c == ';' || c == '&' || c == '|' || c == '<' || c == '>' ||
    c == '(' || c == ')'

/-- Whether a name may start with `c`. -/
def isNameStart (c : Char) : Bool := c.isAlpha || c == '_'

/-- Whether `c` may stand in a name. -/
def isNameChar (c : Char) : Bool := c.isAlphanum || c == '_'

/-- Whether a text is the name of a variable or a function. -/
def isName (s : List Char) : Bool := s.head?.any isNameStart && s.all isNameChar

/-- The single characters that name a parameter. -/
def isSpecialName (c : Char) : Bool :=
  c == '@' || c == '*' || c == '#' || c == '?' || c == '-' || c == '$' || c == '!' || c.isDigit

/-! ## Quotes -/

/-- The text up to a quote, and what follows it. -/
def untilQuote (quote : Char) : List Char → Option (List Char × List Char)
  | [] => none
  | c :: rest =>
      if c = quote then some ([], rest)
      else (untilQuote quote rest).map fun (text, rest) => (c :: text, rest)

/-- A text without the quote is read up to the quote. -/
theorem untilQuote_append {quote : Char} {text rest : List Char} (h : quote ∉ text) :
    untilQuote quote (text ++ quote :: rest) = some (text, rest) := by
  induction text with
  | nil => simp [untilQuote]
  | cons c text ih =>
      simp only [List.mem_cons, not_or] at h
      simp [untilQuote, Ne.symm h.1, ih h.2]

/-! ## Words -/

/-- The text of a word in which nothing is quoted and nothing is worked out, if it is such a word. -/
def bareText? : Word → Option (List Char)
  | [] => some []
  | .plain c :: word => (bareText? word).map (c :: ·)
  | _ :: _ => none

/-- The characters of a word that stand for themselves. -/
def ownText : Word → List Char
  | [] => []
  | .plain c :: word => c :: ownText word
  | .quoted c :: word => c :: ownText word
  | _ :: word => ownText word

/-- The characters at the start of a word that are not quoted, as long as they fit, and what follows
    them. -/
def spanPlain (p : Char → Bool) : Word → List Char × Word
  | .plain c :: word =>
      if p c then
        let (name, rest) := spanPlain p word
        (c :: name, rest)
      else ([], .plain c :: word)
  | word => ([], word)

def assignment? (word : Word) : Option Assignment :=
  match spanPlain isNameChar word with
  | (name, .plain '=' :: value) => if isName name then some (name, value) else none
  | _ => none

/-- A word with a home directory in the place of a tilde and the name of a user at its start. -/
def withHome (endsName : Char → Bool) (word : Word) : Word :=
  match word with
  | .plain '~' :: rest =>
      match spanPlain (fun c => !endsName c) rest with
      | (user, []) => [.home user]
      | (user, .plain c :: rest) => .home user :: .plain c :: rest
      | _ => word
  | word => word

/-- A word with home directories where they may stand after a colon; `fuel` bounds their number. -/
def withLaterHomes : Nat → Word → Word
  | 0, word => word
  | _ + 1, [] => []
  | fuel + 1, .plain ':' :: rest =>
      .plain ':' :: withLaterHomes fuel (withHome (fun c => c == '/' || c == ':') rest)
  | fuel + 1, segment :: rest => segment :: withLaterHomes fuel rest

/-- The value of a variable with home directories at its start and after colons. -/
def withHomes (value : Word) : Word :=
  withLaterHomes value.length (withHome (fun c => c == '/' || c == ':') value)

/-- Whether what stands between double quotes is just all the arguments, which may be none. -/
def isArguments : Word → Bool
  | [.parameter ['@'] .plain _] => true
  | _ => false

end CodeBlock.Shell
