import CodeBlock.Snippet.Grammar.Category
import CodeBlock.Snippet.Token

set_option autoImplicit false

/-! # Rules

A rule says how the parts of a category are written. Where a text could be read in two ways the
**ranks** of the rules decide which reading goes on, and if they do not, then the **side** does: a
rule that keeps to the left ends as soon as it can, and one that keeps to the right as late as it
can. What is left open by both is read in both ways; of two readings that come to the same end the
one with the greater weight is kept. -/

namespace CodeBlock.Snippet

/-- A named degree of binding. -/
inductive Level where
  | member | templateCall | call | new | unaryVoid | binaryExp | binaryTimes | binaryPlus
  | binaryShift | binaryCompare | binaryRelation | binaryEquality | bitwiseAnd | bitwiseXor
  | bitwiseOr | logicalAnd | logicalOr | ternary | assign | declare | literal | object
  | instantiation | unary | binary | extends
  deriving DecidableEq, Repr

/-- How firmly a rule binds: by a level of the order of precedence, or by a number. -/
inductive Rank where
  | level (l : Level)
  | number (n : Int)
  deriving DecidableEq, Repr

/-- The side to which a rule keeps. -/
inductive Side where
  | left
  | right
  deriving DecidableEq, Repr

/-- How the parts of a category are written. -/
inductive Rule where
  /-- One token; one that is `named` counts as a part with a name, whatever the token does. -/
  | token (t : Token) (named : Bool)
  | category (c : Category)
  | nothing
  /-- One thing and then another. -/
  | both (p q : Rule)
  /-- One thing or another. -/
  | either (p q : Rule)
  /-- One or more of a thing. -/
  | oneOrMore (p : Rule)
  | ranked (rank : Rank) (side : Option Side) (p : Rule)
  | weighted (weight : Int) (p : Rule)
  deriving DecidableEq, Repr

namespace Rule

instance : Coe Category Rule := ⟨category⟩

instance : Coe String Rule := ⟨fun text => token (.fixed text) false⟩

instance : Coe Level Rank := ⟨.level⟩

/-! ## How rules are put together -/

/-- One thing after the other. -/
def all : List Rule → Rule
  | [] => nothing
  | [p] => p
  | p :: ps => both p (all ps)

/-- One of some things. -/
def any : List Rule → Rule
  | [] => nothing
  | [p] => p
  | p :: ps => either p (any ps)

/-- A thing or nothing. -/
def opt (p : Rule) : Rule := either p nothing

/-- Any number of a thing, none included. -/
def many (p : Rule) : Rule := opt (oneOrMore p)

/-- One or more of a thing, with a separator between any two. -/
def separated (separator p : Rule) : Rule := both p (many (both separator p))

/-- One or more of a thing, with commas between them. -/
def commas (p : Rule) : Rule := separated "," p

/-- A token that counts as a part with a name. -/
def named : Rule → Rule
  | token t _ => token t true
  | either p q => either (named p) (named q)
  | p => p

def leftRanked (l : Level) (p : Rule) : Rule := ranked l (some .left) p

def rightRanked (l : Level) (p : Rule) : Rule := ranked l (some .right) p

/-- A rule of a level that keeps to no side. -/
def unsided (l : Level) (p : Rule) : Rule := ranked l none p

def leftSided (p : Rule) : Rule := ranked (.number 0) (some .left) p

def rightSided (p : Rule) : Rule := ranked (.number 0) (some .right) p

/-! ## Tokens as rules -/

/-- The rule of a token. -/
def plain (t : Token) : Rule := token t false

def name : Rule := plain .name
def number : Rule := plain .number
def escape : Rule := plain .escape
def ending : Rule := plain .ending
def templateText : Rule := plain .templateText
def privateName : Rule := plain .privateName

end Rule

/-! ## Pieces that many rules share -/

namespace Grammar

open Rule Category

/-- One expression, or several with commas between them. -/
def expressions : Rule := any [expression, expressionSequence]

def softWords : Rule :=
  named (any ["declare", "namespace", "type", "public", "private", "protected", "override",
    "readonly", "module", "any", "number", "boolean", "string", "symbol", "export", "object", "new",
    "get", "set", "async", "static", "let"])

/-- A name where a value is meant. -/
def identifier : Rule := any ["undefined", Rule.name]

/-- What can be assigned to. -/
def target : Rule :=
  any [memberExpression, subscriptExpression, identifier, softWords, destructuring,
    nonNullExpression]

def statementEnd : Rule := any [ending, ";"]

end Grammar

end CodeBlock.Snippet
