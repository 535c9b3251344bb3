set_option autoImplicit false

/-! # Patterns of texts

A pattern describes texts character by character. What it leaves to describe after one character is
again a pattern, its **rest**; so a text is described by a pattern if the rest after all of its
characters may be empty. -/

namespace CodeBlock.Snippet

/-- A description of texts. -/
inductive Pattern where
  /-- No text. -/
  | nothing
  /-- The empty text. -/
  | empty
  /-- One character that passes a test. -/
  | one (test : Char → Bool)
  | both (p q : Pattern)
  | either (p q : Pattern)
  /-- Any number of texts one after the other. -/
  | many (p : Pattern)

namespace Pattern

/-- A certain text. -/
def text : List Char → Pattern
  | [] => empty
  | [c] => one (· == c)
  | c :: cs => both (one (· == c)) (text cs)

/-- Patterns one after the other. -/
def all : List Pattern → Pattern
  | [] => empty
  | [p] => p
  | p :: ps => both p (all ps)

/-- One of some patterns. -/
def any : List Pattern → Pattern
  | [] => nothing
  | [p] => p
  | p :: ps => either p (any ps)

/-- A pattern or nothing. -/
def opt (p : Pattern) : Pattern := either p empty

/-- One or more texts of a pattern. -/
def some (p : Pattern) : Pattern := both p (many p)

/-- Some number of texts of a pattern. -/
def times (n : Nat) (p : Pattern) : Pattern := all (List.replicate n p)

/-- Whether the empty text is described. -/
def mayBeEmpty : Pattern → Bool
  | nothing => false
  | empty => true
  | one _ => false
  | both p q => p.mayBeEmpty && q.mayBeEmpty
  | either p q => p.mayBeEmpty || q.mayBeEmpty
  | many _ => true

/-- Whether the pattern is the one of no text. -/
def isNothing : Pattern → Bool
  | nothing => true
  | _ => false

/-- One pattern after another one, without what can never be. -/
def andThen : Pattern → Pattern → Pattern
  | nothing, _ => nothing
  | empty, q => q
  | p, q => both p q

/-- One of two patterns, without what can never be. -/
def or : Pattern → Pattern → Pattern
  | nothing, q => q
  | p, nothing => p
  | p, q => either p q

/-- What is left to describe after a character. -/
def rest (c : Char) : Pattern → Pattern
  | nothing => nothing
  | empty => nothing
  | one test => if test c then empty else nothing
  | both p q =>
      if p.mayBeEmpty then ((rest c p).andThen q).or (rest c q) else (rest c p).andThen q
  | either p q => (rest c p).or (rest c q)
  | many p => (rest c p).andThen (many p)

def describes (p : Pattern) (s : List Char) : Bool := (s.foldl (fun p c => p.rest c) p).mayBeEmpty

end Pattern

end CodeBlock.Snippet
