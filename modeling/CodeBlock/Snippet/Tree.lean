import CodeBlock.Snippet.Network

set_option autoImplicit false

/-! # Trees

What has been read of a text is a tree. Each node has a symbol and the place where it stands: where
the blanks before it start, where its own text starts and where it ends. A text that breaks the rules
has a tree as well, in which some parts are **errors**, and tokens may be **missing** that were put in.
Errors have a cost; of two readings the one that costs less is better, and of those that cost the same
the one whose rules weigh more. -/

namespace CodeBlock.Snippet

/-! ## The text -/

/-- A text with what is asked about its places: what follows, how many bytes and how many lines come
    before. -/
structure Source where
  after : Array (List Char)
  bytes : Array Nat
  lines : Array Nat

namespace Source

/-- How many bytes a character has. -/
def byteCount (c : Char) : Nat :=
  if c.toNat < 0x80 then 1 else if c.toNat < 0x800 then 2 else if c.toNat < 0x10000 then 3 else 4

/-- The ends of a text, the longest first. -/
def tails : List Char → List (List Char)
  | [] => [[]]
  | c :: rest => (c :: rest) :: tails rest

/-- A text made ready. -/
def ofText (s : List Char) : Source :=
  let sums (f : Char → Nat) : Array Nat :=
    (s.foldl (fun (sums, sum) c => (sums.push (sum + f c), sum + f c)) (#[0], 0)).1
  ⟨(tails s).toArray, sums byteCount, sums fun c => if c == '\n' then 1 else 0⟩

/-- How many characters the text has. -/
def length (source : Source) : Nat := source.after.size - 1

/-- The text from a place on. -/
def rest (source : Source) (place : Nat) : List Char := source.after.getD place []

def bytesBetween (source : Source) (a b : Nat) : Nat :=
  source.bytes.getD b 0 - source.bytes.getD a 0

/-- The line ends between two places. -/
def linesBetween (source : Source) (a b : Nat) : Nat :=
  source.lines.getD b 0 - source.lines.getD a 0

end Source

/-! ## Symbols of errors -/

namespace Symbol

/-- What could not be read. -/
def error : Symbol := 65535

/-- What has been skipped so far. -/
def skipped : Symbol := 65534

/-- Whether a symbol stands for something that breaks the rules. -/
def isFault (symbol : Symbol) : Bool := symbol == error || symbol == skipped

end Symbol

/-! ## Costs -/

namespace Cost

/-- The cost of going wrong. -/
def error : Nat := 500

/-- The cost of a token that is missing, beside that of going wrong. -/
def missing : Nat := 110

def skippedPart : Nat := 100

def skippedLine : Nat := 30

/-- The cost of what is skipped between two places. -/
def ofStretch (source : Source) (a b : Nat) : Nat :=
  source.bytesBetween a b + skippedLine * source.linesBetween a b

end Cost

/-! ## Trees -/

/-- What is known of a tree beside its symbol, place and parts. -/
structure Facts where
  /-- Whether it stands outside of the rules, as a comment does. -/
  extra : Bool
  /-- Whether it is a token that was put in. -/
  missing : Bool
  cost : Nat
  weight : Int
  /-- Whether it is a node of the tree, or only gathers nodes. -/
  visible : Bool
  /-- How many nodes are in it. -/
  inside : Nat
  /-- How many nodes are right below it. -/
  below : Nat
  /-- Which of its parts count as named by its rule, as bits. -/
  marks : Nat
  /-- Whether it is a word that could be a name. -/
  word : Bool
  deriving Repr

/-- A part of a text. -/
inductive Tree where
  | mk (symbol : Symbol) (start content stop : Nat) (parts : List Tree) (facts : Facts)

namespace Tree

def symbol : Tree → Symbol
  | mk symbol _ _ _ _ _ => symbol

/-- Where the blanks before it start. -/
def start : Tree → Nat
  | mk _ start _ _ _ _ => start

/-- Where its own text starts. -/
def content : Tree → Nat
  | mk _ _ content _ _ _ => content

/-- Where it ends. -/
def stop : Tree → Nat
  | mk _ _ _ stop _ _ => stop

def parts : Tree → List Tree
  | mk _ _ _ _ parts _ => parts

def facts : Tree → Facts
  | mk _ _ _ _ _ facts => facts

def withFacts (f : Facts → Facts) : Tree → Tree
  | mk symbol start content stop parts facts => mk symbol start content stop parts (f facts)

/-- The same tree at a place of no length. -/
def placedAt (place : Nat) : Tree → Tree
  | mk symbol _ _ _ parts facts => mk symbol place place place parts facts

/-- The same tree inside or outside of the rules. -/
def asExtra (extra : Bool) (t : Tree) : Tree := t.withFacts ({ · with extra })

def isExtra (t : Tree) : Bool := t.facts.extra

/-- How far it reaches, blanks before it included. -/
def length (t : Tree) : Nat := t.stop - t.start

/-- What is wrong with it. -/
def cost (t : Tree) : Nat := if t.facts.missing then Cost.missing + Cost.error else t.facts.cost

/-- How many nodes it adds to a tree. -/
def nodeCount (t : Tree) : Nat :=
  t.facts.inside + (if t.facts.visible then 1 else 0) + (if t.symbol == Symbol.skipped then 1 else 0)

/-- Whether a symbol has nodes of its own. -/
def isVisibleSymbol (net : Network) (symbol : Symbol) : Bool :=
  symbol == Symbol.error || net.visible.getD symbol false

/-- A token of a text. -/
def leaf (net : Network) (symbol : Symbol) (start content stop : Nat) : Tree :=
  mk symbol start content stop []
    { extra := symbol == Token.finish.index, missing := false, cost := 0, weight := 0,
      visible := isVisibleSymbol net symbol, inside := 0, below := 0, marks := 0, word := false }

/-- What a part adds to the cost of an error around it. -/
def skippingCost (t : Tree) : Nat :=
  if t.isExtra || (t.symbol == Symbol.error && t.parts.isEmpty) then 0
  else if t.facts.visible then Cost.skippedPart
  else if t.parts.isEmpty then 0
  else Cost.skippedPart * t.facts.below

/-- Parts that make up one part. -/
def ofParts (net : Network) (source : Source) (symbol : Symbol) (marks : Nat) (parts : List Tree) :
    Tree :=
  let sum (f : Tree → Nat) : Nat := parts.foldl (fun n t => n + f t) 0
  let start := (parts.head?.map Tree.start).getD 0
  let content := (parts.head?.map Tree.content).getD 0
  let stop := (parts.getLast?.map Tree.stop).getD 0
  let inner := sum fun t => if t.symbol == Symbol.skipped then 0 else t.cost
  let cost :=
    if Symbol.isFault symbol then
      inner + sum skippingCost + Cost.error + Cost.ofStretch source content stop
    else inner
  mk symbol start content stop parts
    { extra := false, missing := false, cost
      weight := parts.foldl (fun n t => n + t.facts.weight) 0
      visible := isVisibleSymbol net symbol
      inside := sum fun t => t.facts.inside + (if t.facts.visible then 1 else 0)
      below := sum fun t =>
        if t.facts.visible then 1 else if t.parts.isEmpty then 0 else t.facts.below
      marks, word := false }

/-! ## Choosing between readings -/

mutual

/-- The order of trees: by their symbols, then by the number of parts, then by the parts. -/
def order : Tree → Tree → Ordering
  | mk symbol _ _ _ parts _, other =>
      if symbol != other.symbol then compare symbol other.symbol
      else if parts.length != other.parts.length then compare parts.length other.parts.length
      else orderParts parts other.parts

def orderParts : List Tree → List Tree → Ordering
  | [], _ => .eq
  | _ :: _, [] => .eq
  | t :: ts, other :: others => (order t other).then (orderParts ts others)

end

/-- Whether the second of two readings of the same text is better. -/
def isBetter (old new : Tree) : Bool :=
  if new.cost != old.cost then new.cost < old.cost
  else if new.facts.weight != old.facts.weight then new.facts.weight > old.facts.weight
  else old.cost > 0 || order old new == .gt

/-- Whether two readings can stand for each other in what is read later. -/
def alike (a b : Tree) : Bool :=
  a.symbol == b.symbol &&
    ((a.cost > 0 && b.cost > 0) ||
      (a.content - a.start == b.content - b.start && a.stop - a.content == b.stop - b.content &&
        a.parts.length == b.parts.length && a.isExtra == b.isExtra))

/-- Parts without the extra ones at their end, and these. -/
def splitTrailing (parts : List Tree) : List Tree × List Tree :=
  ((parts.reverse.dropWhile isExtra).reverse, (parts.reverse.takeWhile isExtra).reverse)

/-! ## Nodes -/

mutual

/-- The nodes that a tree is or gathers, each with whether it has a name; `marked` says that the rule
    around it names it. -/
def nodes (net : Network) (marked : Bool) : Tree → List (Tree × Bool)
  | mk symbol start content stop parts facts =>
      if marked || facts.visible then
        [(mk symbol start content stop parts facts,
          marked || symbol == Symbol.error || net.named.getD symbol false)]
      else nodesOfParts net facts.marks parts

/-- The nodes of parts; `marks` are the bits of those that the rule names. -/
def nodesOfParts (net : Network) (marks : Nat) : List Tree → List (Tree × Bool)
  | [] => []
  | t :: ts =>
      if t.isExtra then nodes net false t ++ nodesOfParts net marks ts
      else nodes net (marks % 2 == 1) t ++ nodesOfParts net (marks / 2) ts

end

/-- The nodes right below a tree that have a name. -/
def namedNodes (net : Network) : Tree → List Tree
  | mk _ _ _ _ parts facts =>
      ((nodesOfParts net facts.marks parts).filter (·.2)).map (·.1)

end Tree

end CodeBlock.Snippet
