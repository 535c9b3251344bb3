set_option autoImplicit false

/-! # Patterns of the shell

A pattern says what a text may look like: a question mark stands for any character, a star for any
text, and brackets for one character of a set. Characters that were quoted stand for themselves. -/

namespace CodeBlock.Shell

/-- A part of a pattern. -/
inductive PatternPart where
  | exactly (c : Char)
  | anyChar
  | anyText
  /-- A character of one of the ranges, or of none if `negated`. -/
  | among (negated : Bool) (ranges : List (Char × Char))
  deriving DecidableEq, Repr

/-- What a text may look like. -/
abbrev Pattern := List PatternPart

/-- Whether a character lies in one of the ranges. -/
def inRanges (ranges : List (Char × Char)) (c : Char) : Bool :=
  ranges.any fun (low, high) => decide (low ≤ c) && decide (c ≤ high)

def endsOf : List Char → List (List Char)
  | [] => [[]]
  | c :: rest => (c :: rest) :: endsOf rest

/-- Whether a text looks like the pattern. -/
def Pattern.accepts : Pattern → List Char → Bool
  | [], s => s.isEmpty
  | .anyText :: parts, s => (endsOf s).any (accepts parts ·)
  | _ :: _, [] => false
  | .exactly d :: parts, c :: s => c == d && accepts parts s
  | .anyChar :: parts, _ :: s => accepts parts s
  | .among negated ranges :: parts, c :: s => (inRanges ranges c != negated) && accepts parts s

/-- The ranges of the classes that have names. -/
def classRanges : List (String × List (Char × Char)) :=
  [("alnum", [('0', '9'), ('A', 'Z'), ('a', 'z')]), ("alpha", [('A', 'Z'), ('a', 'z')]),
    ("blank", [(' ', ' '), ('\t', '\t')]), ("cntrl", [('\x00', '\x1f'), ('\x7f', '\x7f')]),
    ("digit", [('0', '9')]), ("graph", [('!', '~')]), ("lower", [('a', 'z')]),
    ("print", [(' ', '~')]), ("punct", [('!', '/'), (':', '@'), ('[', '\x60'), ('{', '~')]),
    ("space", [('\t', '\r'), (' ', ' ')]), ("upper", [('A', 'Z')]),
    ("xdigit", [('0', '9'), ('A', 'F'), ('a', 'f')])]

/-- The ranges of the class whose name a text starts with, up to its closing bracket, and what
    follows. -/
def readClass? (s : List (Char × Bool)) : Option (List (Char × Char) × List (Char × Bool)) :=
  classRanges.findSome? fun (name, ranges) =>
    let written := (":" ++ name ++ ":]").toList.map fun c => (c, false)
    if written.isPrefixOf s then some (ranges, s.drop written.length) else none

/-- The ranges of a set up to its closing bracket, which does not count as one if it comes first, and what
    follows; `fuel` bounds their number. -/
def readRanges (isFirst : Bool) :
    Nat → List (Char × Bool) → Option (List (Char × Char) × List (Char × Bool))
  | 0, _ => none
  | _ + 1, [] => none
  | fuel + 1, (c, q) :: rest =>
      if c = ']' ∧ q = false ∧ isFirst = false then some ([], rest)
      else
        match (if c = '[' ∧ q = false then readClass? rest else none) with
        | some (ranges, rest) => more ranges fuel rest
        | none =>
            let (c, rest) := match c, q, rest with
              | '\\', false, (d, _) :: rest => (d, rest)
              | _, _, _ => (c, rest)
            match rest with
            | ('-', false) :: (']', false) :: _ => more [(c, c)] fuel rest
            | ('-', false) :: ('\\', false) :: (high, _) :: rest => more [(c, high)] fuel rest
            | ('-', false) :: (high, _) :: rest => more [(c, high)] fuel rest
            | rest => more [(c, c)] fuel rest
where
  more (ranges : List (Char × Char)) (fuel : Nat) (rest : List (Char × Bool)) :
      Option (List (Char × Char) × List (Char × Bool)) :=
    (readRanges false fuel rest).map fun (others, rest) => (ranges ++ others, rest)

/-- The set that a text after an opening bracket starts with, and what follows it: an exclamation mark
    negates the set. -/
def readSet (s : List (Char × Bool)) : Option (PatternPart × List (Char × Bool)) :=
  let (negated, s) := match s with
    | ('!', false) :: s => (true, s)
    | s => (false, s)
  (readRanges true (s.length + 1) s).map fun (ranges, rest) => (.among negated ranges, rest)

/-- The pattern of some characters, of which each is quoted or not: a backslash that is not quoted takes
    its meaning from the next character. `fuel` bounds their number. -/
def readPattern : Nat → List (Char × Bool) → Pattern
  | 0, _ => []
  | _ + 1, [] => []
  | fuel + 1, (c, q) :: rest =>
      if q then .exactly c :: readPattern fuel rest
      else if c = '*' then .anyText :: readPattern fuel rest
      else if c = '?' then .anyChar :: readPattern fuel rest
      else if c = '[' then
        match readSet rest with
        | some (set, rest) => set :: readPattern fuel rest
        | none => .exactly c :: readPattern fuel rest
      else if c = '\\' then
        match rest with
        | (d, _) :: rest => .exactly d :: readPattern fuel rest
        | [] => [.exactly c]
      else .exactly c :: readPattern fuel rest

/-- The pattern of some characters, of which each is quoted or not. -/
def Pattern.ofMarked (s : List (Char × Bool)) : Pattern := readPattern s.length s

/-- Whether a part stands for more than one character. -/
def PatternPart.isOpen : PatternPart → Bool
  | .exactly _ => false
  | _ => true

/-- The text without the start that looks like a pattern, as little or as much as can be, if some start
    does. -/
def withoutStart? (longest : Bool) (pattern : Pattern) (s : List Char) : Option (List Char) :=
  let ends := if longest then (endsOf s).reverse else endsOf s
  ends.find? fun rest => pattern.accepts (s.take (s.length - rest.length))

/-- The text without the end that looks like a pattern, as little or as much as can be, if some end does. -/
def withoutEnd? (longest : Bool) (pattern : Pattern) (s : List Char) : Option (List Char) :=
  let ends := if longest then endsOf s else (endsOf s).reverse
  (ends.find? (Pattern.accepts pattern ·)).map fun last => s.take (s.length - last.length)

end CodeBlock.Shell
